import Mathlib.Data.List.Basic
import Mathlib.Logic.Relation
import RequestLayer.Store

set_option autoImplicit false

namespace RequestLayer.Store

variable {κ α : Type}

-- The keys with a value, in the order of the association list, which means nothing.
def keys (store : Store κ α) : List κ := store.values.map Prod.fst

structure Matched (store : Store κ α) : Prop where
  distinct : store.order.Nodup
  held : store.order.Perm store.keys

def Fits (store : Store κ α) : Prop :=
  ∀ capacity ∈ store.capacity, store.order.length ≤ capacity.size

theorem empty_matched (capacity : Option Capacity) : Matched (empty capacity : Store κ α) :=
  ⟨List.nodup_nil, List.Perm.nil⟩

theorem empty_fits (capacity : Option Capacity) : Fits (empty capacity : Store κ α) :=
  fun _ _ => Nat.zero_le _

theorem size_eq_order (store : Store κ α) (matched : Matched store) :
    store.size = store.order.length := by
  simpa [keys, size] using matched.held.length_eq.symm

def entriesOf (find : κ → Option α) (order : List κ) : List (κ × α) :=
  order.filterMap fun key => (find key).map fun value => (key, value)

theorem entries_append (find : κ → Option α) (front back : List κ) :
    entriesOf find (front ++ back) = entriesOf find front ++ entriesOf find back :=
  List.filterMap_append

theorem entries_congr (find other : κ → Option α) (order : List κ)
    (same : ∀ key ∈ order, find key = other key) :
    entriesOf find order = entriesOf other order := by
  apply List.filterMap_congr
  intro key member
  rw [same key member]

theorem entries_keys (find : κ → Option α) (order : List κ)
    (held : ∀ key ∈ order, (find key).isSome) : (entriesOf find order).map Prod.fst = order := by
  induction order with
  | nil => rfl
  | cons key rest ih =>
      obtain ⟨value, found⟩ := Option.isSome_iff_exists.mp (held key (by simp))
      have others := ih fun other member => held other (by simp [member])
      simpa [entriesOf, found] using others

variable [DecidableEq κ]

theorem lookup_entries (find : κ → Option α) (order : List κ) (key : κ) :
    (entriesOf find order).lookup key = if key ∈ order then find key else none := by
  induction order with
  | nil => rfl
  | cons first rest ih =>
      simp only [entriesOf] at ih
      by_cases same : key = first
      · subst same
        cases found : find key with
        | none => simp [entriesOf, found, ih]
        | some value => simp [entriesOf, found]
      · have apart : (key == first) = false := beq_false_of_ne same
        cases found : find first <;> simp [entriesOf, found, ih, same, List.lookup_cons, apart]

theorem contains_iff_keys (store : Store κ α) (key : κ) :
    store.contains key ↔ key ∈ store.keys := by
  rw [contains, get?, List.lookup_isSome_iff]
  simp only [keys, List.mem_map, beq_iff_eq]
  constructor
  · rintro ⟨entry, member, same⟩
    exact ⟨entry, member, same.symm⟩
  · rintro ⟨entry, member, same⟩
    exact ⟨entry, member, same.symm⟩

theorem contains_iff_order (store : Store κ α) (key : κ) (matched : Matched store) :
    store.contains key ↔ key ∈ store.order := by
  rw [contains_iff_keys, matched.held.mem_iff]

theorem items_eq_entries (store : Store κ α) : store.items = entriesOf store.get? store.order := rfl

theorem items_keys (store : Store κ α) (matched : Matched store) :
    store.items.map Prod.fst = store.order :=
  entries_keys _ _ fun key member => (contains_iff_order store key matched).mpr member

theorem items_lookup (store : Store κ α) (key : κ) (matched : Matched store) :
    store.items.lookup key = store.get? key := by
  rw [items_eq_entries, lookup_entries]
  by_cases member : key ∈ store.order
  · rw [if_pos member]
  · have absent : ¬ store.contains key := fun found =>
      member ((contains_iff_order store key matched).mp found)
    rw [if_neg member]
    exact (Option.not_isSome_iff_eq_none.mp absent).symm

theorem mem_items (store : Store κ α) (key : κ) (value : α)
    (member : (key, value) ∈ store.items) : store.get? key = some value := by
  obtain ⟨other, _, found⟩ := List.mem_filterMap.mp member
  obtain ⟨stored, there, pair⟩ := Option.map_eq_some_iff.mp found
  cases pair
  exact there

theorem items_length (store : Store κ α) (matched : Matched store) :
    store.items.length = store.size := by
  rw [size_eq_order store matched, ← congrArg List.length (items_keys store matched), List.length_map]

end RequestLayer.Store
