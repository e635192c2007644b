import RequestLayer.Proofs.Store.Queue

set_option autoImplicit false

namespace RequestLayer.Store

variable {κ α : Type} [DecidableEq κ]

theorem get_drop_oldest (store : Store κ α) (oldest key : κ) (rest : List κ) :
    (store.dropOldest oldest rest).1.get? key = if key = oldest then none else store.get? key := by
  simp only [dropOldest, get?]
  induction store.values with
  | nil => simp
  | cons entry others ih => grind

theorem drop_oldest_keys (store : Store κ α) (oldest : κ) (rest : List κ) :
    (store.dropOldest oldest rest).1.keys = store.keys.filter (· ≠ oldest) := by
  simp only [dropOldest, keys, List.filter_map]
  rfl

theorem drop_oldest_matched (store : Store κ α) (oldest : κ) (rest : List κ)
    (matched : Matched store) (order : store.order = oldest :: rest) :
    Matched (store.dropOldest oldest rest).1 := by
  have distinct : (oldest :: rest).Nodup := order ▸ matched.distinct
  have absent : oldest ∉ rest := (List.nodup_cons.mp distinct).1
  refine ⟨(List.nodup_cons.mp distinct).2, ?_⟩
  have kept : store.order.filter (· ≠ oldest) = rest := by
    rw [order]
    simp only [ne_eq, not_true_eq_false, decide_false, Bool.false_eq_true, not_false_eq_true,
      List.filter_cons_of_neg, List.filter_eq_self, decide_eq_true_eq]
    intro key member same
    exact absent (same ▸ member)
  rw [drop_oldest_keys]
  have both := matched.held.filter (· ≠ oldest)
  rwa [kept] at both

theorem drop_oldest_items (store : Store κ α) (oldest : κ) (rest : List κ)
    (matched : Matched store) (order : store.order = oldest :: rest) :
    (store.dropOldest oldest rest).2 ++ (store.dropOldest oldest rest).1.items = store.items := by
  have distinct : (oldest :: rest).Nodup := order ▸ matched.distinct
  have others : (store.dropOldest oldest rest).1.items = entriesOf store.get? rest := by
    apply entries_congr
    intro key member
    have different : key ≠ oldest := by
      rintro rfl
      exact (List.nodup_cons.mp distinct).1 member
    rw [get_drop_oldest, if_neg different]
  have first : (store.dropOldest oldest rest).2 = entriesOf store.get? [oldest] := by
    cases found : store.get? oldest <;> simp [dropOldest, entriesOf, found]
  rw [others, first, ← entries_append, items_eq_entries, order]
  rfl

-- One turn of the loop that makes room: the queue is too long and its first key is dropped.
inductive Round (limit : Nat) : Store κ α → Store κ α → Prop
  | drop (store : Store κ α) (oldest : κ) (rest : List κ) (order : store.order = oldest :: rest)
      (long : limit ≤ store.order.length) : Round limit store (store.dropOldest oldest rest).1

theorem round_shortens (limit : Nat) (store next : Store κ α) (round : Round limit store next) :
    next.order.length < store.order.length := by
  cases round with
  | drop oldest rest order long => simp [order, dropOldest]

theorem rounds_end (limit : Nat) :
    WellFounded fun next store : Store κ α => Round limit store next :=
  Subrelation.wf (fun round => round_shortens limit _ _ round)
    (measure fun store : Store κ α => store.order.length).wf

theorem rounds_matched (limit : Nat) (store next : Store κ α) (matched : Matched store)
    (rounds : Relation.ReflTransGen (Round limit) store next) : Matched next := by
  induction rounds with
  | refl => exact matched
  | tail _ round ih =>
      cases round with
      | drop oldest rest order long => exact drop_oldest_matched _ oldest rest ih order

theorem rounds_get (limit : Nat) (store next : Store κ α) (key : κ) (value : α)
    (rounds : Relation.ReflTransGen (Round limit) store next)
    (found : next.get? key = some value) : store.get? key = some value := by
  induction rounds with
  | refl => exact found
  | tail _ round ih =>
      cases round with
      | drop oldest rest order long =>
          rw [get_drop_oldest] at found
          by_cases same : key = oldest
          · simp [same] at found
          · rw [if_neg same] at found
            exact ih found

-- The queue is passed beside the store; it is the store's own, also after each turn.
theorem make_room_rounds (limit : Nat) (store : Store κ α) (order : List κ)
    (own : store.order = order) :
    Relation.ReflTransGen (Round limit) store (makeRoom limit store order).1 := by
  induction order generalizing store with
  | nil => exact .refl
  | cons oldest rest ih =>
      by_cases long : limit ≤ rest.length + 1
      · rw [makeRoom, if_pos long]
        have turn : Round limit store (store.dropOldest oldest rest).1 :=
          .drop store oldest rest own (by simpa [own] using long)
        exact .head turn (ih (store.dropOldest oldest rest).1 rfl)
      · rw [makeRoom, if_neg long]

theorem make_room_stops (limit : Nat) (store : Store κ α) (order : List κ)
    (own : store.order = order) (next : Store κ α) :
    ¬ Round limit (makeRoom limit store order).1 next := by
  induction order generalizing store with
  | nil =>
      intro round
      cases round with
      | drop oldest rest order long => simp [makeRoom, own] at order
  | cons oldest rest ih =>
      by_cases long : limit ≤ rest.length + 1
      · rw [makeRoom, if_pos long]
        exact ih (store.dropOldest oldest rest).1 rfl
      · rw [makeRoom, if_neg long]
        intro round
        cases round with
        | drop first others order tooLong => exact long (by simpa [own] using tooLong)

theorem make_room_length (limit : Nat) (store : Store κ α) (order : List κ)
    (own : store.order = order) :
    (makeRoom limit store order).1.order.length = min order.length (limit - 1) := by
  induction order generalizing store with
  | nil => simp [makeRoom, own]
  | cons oldest rest ih =>
      by_cases long : limit ≤ rest.length + 1
      · rw [makeRoom, if_pos long]
        simp only [ih (store.dropOldest oldest rest).1 rfl, List.length_cons]
        omega
      · rw [makeRoom, if_neg long, own, List.length_cons]
        omega

theorem make_room_items (limit : Nat) (store : Store κ α) (order : List κ)
    (matched : Matched store) (own : store.order = order) :
    (makeRoom limit store order).2 ++ (makeRoom limit store order).1.items = store.items := by
  induction order generalizing store with
  | nil => rfl
  | cons oldest rest ih =>
      by_cases long : limit ≤ rest.length + 1
      · have smaller := drop_oldest_matched store oldest rest matched own
        rw [makeRoom, if_pos long]
        dsimp only
        rw [List.append_assoc, ih (store.dropOldest oldest rest).1 smaller rfl]
        exact drop_oldest_items store oldest rest matched own
      · rw [makeRoom, if_neg long]
        rfl

theorem make_room_capacity (limit : Nat) (store : Store κ α) (order : List κ) :
    (makeRoom limit store order).1.capacity = store.capacity := by
  induction order generalizing store with
  | nil => rfl
  | cons oldest rest ih =>
      by_cases long : limit ≤ rest.length + 1
      · rw [makeRoom, if_pos long]
        exact ih (store.dropOldest oldest rest).1
      · rw [makeRoom, if_neg long]

end RequestLayer.Store
