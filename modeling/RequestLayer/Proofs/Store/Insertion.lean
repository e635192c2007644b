import RequestLayer.Proofs.Store.Eviction

set_option autoImplicit false

namespace RequestLayer.Store

variable {κ α : Type} [DecidableEq κ]

def roomFor (store : Store κ α) : Store κ α × List (κ × α) :=
  match store.capacity with
  | some capacity => makeRoom capacity.size store store.order
  | none => (store, [])

def isFull (store : Store κ α) : Bool :=
  store.capacity.any fun capacity => capacity.size ≤ store.size

theorem room_matched (store : Store κ α) (matched : Matched store) :
    Matched (roomFor store).1 := by
  unfold roomFor
  split
  · exact rounds_matched _ store _ matched (make_room_rounds _ store store.order rfl)
  · exact matched

theorem room_items (store : Store κ α) (matched : Matched store) :
    (roomFor store).2 ++ (roomFor store).1.items = store.items := by
  unfold roomFor
  split
  · exact make_room_items _ store store.order matched rfl
  · rfl

theorem room_capacity (store : Store κ α) : (roomFor store).1.capacity = store.capacity := by
  unfold roomFor
  split
  · exact make_room_capacity _ store store.order
  · rfl

theorem room_left (store : Store κ α) (capacity : Capacity) (fits : Fits store)
    (bounded : store.capacity = some capacity) :
    (roomFor store).1.order.length + 1 ≤ capacity.size ∧
      store.order.length ≤ (roomFor store).1.order.length + 1 := by
  have limit := fits capacity bounded
  have positive := capacity.positive
  have length := make_room_length capacity.size store store.order rfl
  simp only [roomFor, bounded]
  omega

theorem room_dropped (store : Store κ α) (matched : Matched store) (fits : Fits store) :
    (roomFor store).2.length = if store.isFull then 1 else 0 := by
  have counted := congrArg List.length (room_items store matched)
  have room := room_matched store matched
  rw [List.length_append, items_length _ room, items_length store matched,
    size_eq_order _ room, size_eq_order store matched] at counted
  cases bounded : store.capacity with
  | none => simp [roomFor, isFull, bounded]
  | some capacity =>
      have limit := fits capacity bounded
      have positive := capacity.positive
      have length := make_room_length capacity.size store store.order rfl
      simp only [roomFor, isFull, bounded, Option.any_some, decide_eq_true_eq,
        size_eq_order store matched] at counted ⊢
      by_cases full : capacity.size ≤ store.order.length
      · rw [if_pos full]
        omega
      · rw [if_neg full]
        omega

theorem insert_new (store : Store κ α) (key : κ) (value : α) (absent : ¬ store.contains key) :
    store.insert key value =
      ({ (roomFor store).1 with
          order := (roomFor store).1.order ++ [key]
          values := (key, value) :: (roomFor store).1.values }, (roomFor store).2) := by
  rw [insert, if_neg absent]
  rfl

theorem insert_stored (store : Store κ α) (key : κ) (value : α) (stored : store.contains key) :
    store.insert key value =
      ({ store with
          values := store.values.map fun entry =>
            if entry.1 = key then (key, value) else entry }, []) := by
  rw [insert, if_pos stored]

theorem contains_iff_items (store : Store κ α) (key : κ) (matched : Matched store) :
    store.contains key ↔ key ∈ store.items.map Prod.fst := by
  rw [items_keys store matched, contains_iff_order store key matched]

theorem room_absent (store : Store κ α) (key : κ) (matched : Matched store)
    (absent : ¬ store.contains key) : ¬ (roomFor store).1.contains key := by
  intro found
  have member := (contains_iff_items _ key (room_matched store matched)).mp found
  apply absent
  rw [contains_iff_items store key matched, ← room_items store matched, List.map_append]
  exact List.mem_append_right _ member

theorem insert_new_matched (store : Store κ α) (key : κ) (value : α) (matched : Matched store)
    (absent : ¬ store.contains key) : Matched (store.insert key value).1 := by
  have room := room_matched store matched
  have fresh := room_absent store key matched absent
  rw [contains_iff_order _ key room] at fresh
  rw [insert_new store key value absent]
  constructor
  · exact (List.perm_append_singleton key _).nodup_iff.mpr
      (List.nodup_cons.mpr ⟨fresh, room.distinct⟩)
  · exact (List.perm_append_singleton key _).trans (room.held.cons key)

theorem insert_new_items (store : Store κ α) (key : κ) (value : α) (matched : Matched store)
    (absent : ¬ store.contains key) :
    (store.insert key value).2 ++ (store.insert key value).1.items =
      store.items ++ [(key, value)] := by
  have room := room_matched store matched
  have fresh := room_absent store key matched absent
  rw [contains_iff_order _ key room] at fresh
  have old : ∀ other ∈ (roomFor store).1.order,
      (store.insert key value).1.get? other = (roomFor store).1.get? other := by
    intro other member
    have different : (other == key) = false := beq_false_of_ne fun same => fresh (same ▸ member)
    rw [insert_new store key value absent]
    simp [get?, List.lookup_cons, different]
  have items : (store.insert key value).1.items = (roomFor store).1.items ++ [(key, value)] := by
    have order : (store.insert key value).1.order = (roomFor store).1.order ++ [key] := by
      rw [insert_new store key value absent]
    rw [items_eq_entries, order, entries_append, entries_congr _ _ _ old]
    congr 1
    rw [insert_new store key value absent]
    simp [entriesOf, get?]
  have dropped : (store.insert key value).2 = (roomFor store).2 := by
    rw [insert_new store key value absent]
  rw [items, dropped, ← List.append_assoc, room_items store matched]

theorem insert_new_dropped (store : Store κ α) (key : κ) (value : α) (matched : Matched store)
    (fits : Fits store) (absent : ¬ store.contains key) :
    (store.insert key value).2.length = if store.isFull then 1 else 0 := by
  rw [insert_new store key value absent]
  exact room_dropped store matched fits

theorem insert_stored_keys (store : Store κ α) (key : κ) (value : α)
    (stored : store.contains key) : (store.insert key value).1.keys = store.keys := by
  rw [insert_stored store key value stored]
  simp only [keys, List.map_map]
  apply List.map_congr_left
  intro entry _
  by_cases same : entry.1 = key <;> simp [same]

theorem insert_new_full (store : Store κ α) (key : κ) (value : α) (matched : Matched store)
    (fits : Fits store) (absent : ¬ store.contains key) (full : store.isFull) :
    ∃ oldest rest, store.items = oldest :: rest ∧ (store.insert key value).2 = [oldest] ∧
      (store.insert key value).1.items = rest ++ [(key, value)] := by
  have entries := insert_new_items store key value matched absent
  have one := insert_new_dropped store key value matched fits absent
  rw [if_pos full] at one
  obtain ⟨dropped, only⟩ := List.length_eq_one_iff.mp one
  rw [only, List.singleton_append] at entries
  cases items : store.items with
  | nil =>
      have none : store.size = 0 := by simpa [items] using (items_length store matched).symm
      cases bounded : store.capacity with
      | none => simp [isFull, bounded] at full
      | some capacity =>
          have positive := capacity.positive
          simp only [isFull, bounded, none, Option.any_some, decide_eq_true_eq] at full
          omega
  | cons oldest rest =>
      rw [items, List.cons_append] at entries
      obtain ⟨same, left⟩ := List.cons.inj entries
      exact ⟨oldest, rest, rfl, same ▸ only, left⟩

theorem insert_new_room (store : Store κ α) (key : κ) (value : α) (matched : Matched store)
    (fits : Fits store) (absent : ¬ store.contains key) (room : ¬ store.isFull) :
    (store.insert key value).2 = [] ∧
      (store.insert key value).1.items = store.items ++ [(key, value)] := by
  have entries := insert_new_items store key value matched absent
  have nothing := insert_new_dropped store key value matched fits absent
  rw [if_neg room, List.length_eq_zero_iff] at nothing
  rw [nothing, List.nil_append] at entries
  exact ⟨nothing, entries⟩

theorem insert_matched (store : Store κ α) (key : κ) (value : α) (matched : Matched store) :
    Matched (store.insert key value).1 := by
  by_cases stored : store.contains key
  · have order : (store.insert key value).1.order = store.order := by
      rw [insert_stored store key value stored]
    refine ⟨order ▸ matched.distinct, ?_⟩
    rw [insert_stored_keys store key value stored, order]
    exact matched.held
  · exact insert_new_matched store key value matched stored

theorem insert_capacity (store : Store κ α) (key : κ) (value : α) :
    (store.insert key value).1.capacity = store.capacity := by
  by_cases stored : store.contains key
  · rw [insert_stored store key value stored]
  · rw [insert_new store key value stored]
    exact room_capacity store

theorem insert_fits (store : Store κ α) (key : κ) (value : α) (fits : Fits store) :
    Fits (store.insert key value).1 := by
  intro capacity bounded
  rw [insert_capacity] at bounded
  by_cases stored : store.contains key
  · rw [insert_stored store key value stored]
    exact fits capacity bounded
  · rw [insert_new store key value stored, List.length_append]
    exact (room_left store capacity fits bounded).1

theorem lookup_overwritten (entries : List (κ × α)) (key other : κ) (value : α) :
    (entries.map fun entry => if entry.1 = key then (key, value) else entry).lookup other =
      if other = key then (entries.lookup key).map fun _ => value else entries.lookup other := by
  induction entries with
  | nil => simp
  | cons entry rest ih =>
      obtain ⟨name, old⟩ := entry
      by_cases here : name = key
      · subst name
        by_cases asked : other = key
        · simp [asked]
        · have missed : (other == key) = false := beq_false_of_ne asked
          simp [List.lookup_cons, asked, missed, ih]
      · by_cases asked : other = key
        · subst other
          have missed : (key == name) = false := beq_false_of_ne (Ne.symm here)
          simp [List.lookup_cons, here, missed, ih]
        · simp [List.lookup_cons, here, asked, ih]

theorem get_insert_stored (store : Store κ α) (key other : κ) (value : α)
    (stored : store.contains key) :
    (store.insert key value).1.get? other = if other = key then some value else store.get? other := by
  obtain ⟨old, found⟩ := Option.isSome_iff_exists.mp stored
  rw [get?] at found
  rw [insert_stored store key value stored, get?, lookup_overwritten, found]
  rfl

theorem insert_stored_items (store : Store κ α) (key : κ) (value : α)
    (stored : store.contains key) :
    (store.insert key value).1.items =
      store.items.map fun entry => if entry.1 = key then (key, value) else entry := by
  have order : (store.insert key value).1.order = store.order := by
    rw [insert_stored store key value stored]
  obtain ⟨old, found⟩ := Option.isSome_iff_exists.mp stored
  rw [items_eq_entries, order, items_eq_entries, entriesOf, entriesOf, List.map_filterMap]
  apply List.filterMap_congr
  intro other _
  rw [get_insert_stored store key other value stored]
  by_cases same : other = key
  · simp [same, found]
  · cases store.get? other <;> simp [same]

theorem room_get (store : Store κ α) (key : κ) (value : α)
    (found : (roomFor store).1.get? key = some value) : store.get? key = some value := by
  unfold roomFor at found
  split at found
  · exact rounds_get _ store _ key value (make_room_rounds _ store store.order rfl) found
  · exact found

theorem get_insert (store : Store κ α) (key other : κ) (value found : α)
    (present : (store.insert key value).1.get? other = some found) :
    (other = key ∧ found = value) ∨ (other ≠ key ∧ store.get? other = some found) := by
  by_cases stored : store.contains key
  · rw [get_insert_stored store key other value stored] at present
    by_cases same : other = key
    · rw [if_pos same] at present
      exact .inl ⟨same, (Option.some.inj present).symm⟩
    · rw [if_neg same] at present
      exact .inr ⟨same, present⟩
  · rw [insert_new store key value stored, get?, List.lookup_cons] at present
    by_cases same : other = key
    · rw [beq_iff_eq.mpr same] at present
      exact .inl ⟨same, (Option.some.inj present).symm⟩
    · rw [beq_false_of_ne same] at present
      exact .inr ⟨same, room_get store other found present⟩

theorem get_insert_unbounded (store : Store κ α) (key other : κ) (value : α)
    (unbounded : store.capacity = none) :
    (store.insert key value).1.get? other = if other = key then some value else store.get? other := by
  by_cases stored : store.contains key
  · exact get_insert_stored store key other value stored
  · rw [insert_new store key value stored, roomFor, unbounded, get?, List.lookup_cons]
    by_cases same : other = key
    · rw [beq_iff_eq.mpr same, if_pos same]
    · rw [beq_false_of_ne same, if_neg same]
      rfl

end RequestLayer.Store
