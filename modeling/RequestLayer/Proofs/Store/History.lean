import RequestLayer.Proofs.Store.Insertion

set_option autoImplicit false

namespace RequestLayer.Store

inductive Operation (κ α : Type) where
  | insert (key : κ) (value : α)
  | get (key : κ)
  | contains (key : κ)
  | clear
  | items
  | size

inductive Answer (κ α : Type) where
  | dropped (entries : List (κ × α))
  | found (value : Option α)
  | contained (answer : Bool)
  | cleared
  | listed (entries : List (κ × α))
  | counted (size : Nat)

-- What is known of the value under a key, if that was `known` before an operation.
def written {κ α : Type} [DecidableEq κ] (key : κ) (known : Option α) : Operation κ α → Option α
  | .insert other value => if other = key then some value else known
  | _ => known

def latest {κ α : Type} [DecidableEq κ] (key : κ) (operations : List (Operation κ α)) : Option α :=
  operations.foldl (written key) none

def droppedKeys {κ α : Type} (answers : List (Answer κ α)) : List κ :=
  answers.flatMap fun answer =>
    match answer with
    | .dropped entries => entries.map Prod.fst
    | _ => []

variable {κ α : Type} [DecidableEq κ]

def perform (store : Store κ α) : Operation κ α → Store κ α × Answer κ α
  | .insert key value =>
      let (next, entries) := store.insert key value
      (next, .dropped entries)
  | .get key => (store, .found (store.get? key))
  | .contains key => (store, .contained (store.contains key))
  | .clear => (store.clear, .cleared)
  | .items => (store, .listed store.items)
  | .size => (store, .counted store.size)

def run (store : Store κ α) : List (Operation κ α) → Store κ α × List (Answer κ α)
  | [] => (store, [])
  | operation :: rest =>
      let (next, answer) := store.perform operation
      let (last, answers) := next.run rest
      (last, answer :: answers)

def newKey (store : Store κ α) : Operation κ α → List κ
  | .insert key _ => if store.contains key then [] else [key]
  | _ => []

def newKeys (store : Store κ α) : List (Operation κ α) → List κ
  | [] => []
  | operation :: rest => store.newKey operation ++ (store.perform operation).1.newKeys rest

theorem perform_matched (store : Store κ α) (operation : Operation κ α) (matched : Matched store) :
    Matched (store.perform operation).1 := by
  cases operation with
  | insert key value => exact insert_matched store key value matched
  | clear => exact empty_matched store.capacity
  | get key => exact matched
  | contains key => exact matched
  | items => exact matched
  | size => exact matched

theorem perform_capacity (store : Store κ α) (operation : Operation κ α) :
    (store.perform operation).1.capacity = store.capacity := by
  cases operation with
  | insert key value => exact insert_capacity store key value
  | _ => rfl

theorem perform_fits (store : Store κ α) (operation : Operation κ α) (fits : Fits store) :
    Fits (store.perform operation).1 := by
  cases operation with
  | insert key value => exact insert_fits store key value fits
  | clear => exact empty_fits store.capacity
  | get key => exact fits
  | contains key => exact fits
  | items => exact fits
  | size => exact fits

theorem run_matched (store : Store κ α) (operations : List (Operation κ α))
    (matched : Matched store) : Matched (store.run operations).1 := by
  induction operations generalizing store with
  | nil => exact matched
  | cons operation rest ih =>
      exact ih (store.perform operation).1 (perform_matched store operation matched)

theorem run_fits (store : Store κ α) (operations : List (Operation κ α)) (fits : Fits store) :
    Fits (store.run operations).1 := by
  induction operations generalizing store with
  | nil => exact fits
  | cons operation rest ih =>
      exact ih (store.perform operation).1 (perform_fits store operation fits)

theorem run_capacity (store : Store κ α) (operations : List (Operation κ α)) :
    (store.run operations).1.capacity = store.capacity := by
  induction operations generalizing store with
  | nil => rfl
  | cons operation rest ih =>
      exact (ih (store.perform operation).1).trans (perform_capacity store operation)

theorem perform_conserves (store : Store κ α) (operation : Operation κ α) (matched : Matched store)
    (kept : operation ≠ .clear) :
    droppedKeys [(store.perform operation).2] ++ (store.perform operation).1.items.map Prod.fst =
      store.items.map Prod.fst ++ store.newKey operation := by
  cases operation with
  | insert key value =>
      by_cases stored : store.contains key
      · have next := insert_matched store key value matched
        have keys : (store.insert key value).1.items.map Prod.fst = store.items.map Prod.fst := by
          rw [items_keys _ next, items_keys store matched, insert_stored store key value stored]
        have dropped : (store.insert key value).2 = [] := by
          rw [insert_stored store key value stored]
        simp [perform, droppedKeys, newKey, stored, dropped, keys]
      · have entries := congrArg (List.map Prod.fst) (insert_new_items store key value matched stored)
        simpa [perform, droppedKeys, newKey, stored] using entries
  | clear => exact absurd rfl kept
  | get key => simp [perform, droppedKeys, newKey]
  | contains key => simp [perform, droppedKeys, newKey]
  | items => simp [perform, droppedKeys, newKey]
  | size => simp [perform, droppedKeys, newKey]

theorem run_conserves (store : Store κ α) (stretch : List (Operation κ α)) (matched : Matched store)
    (kept : ∀ operation ∈ stretch, operation ≠ .clear) :
    droppedKeys (store.run stretch).2 ++ (store.run stretch).1.items.map Prod.fst =
      store.items.map Prod.fst ++ store.newKeys stretch := by
  induction stretch generalizing store with
  | nil => simp [run, droppedKeys, newKeys]
  | cons operation rest ih =>
      have first := perform_conserves store operation matched (kept operation (by simp))
      have others := ih (store.perform operation).1 (perform_matched store operation matched)
        fun later member => kept later (by simp [member])
      have split : droppedKeys (store.run (operation :: rest)).2 =
          droppedKeys [(store.perform operation).2] ++
            droppedKeys ((store.perform operation).1.run rest).2 := by
        simp [run, droppedKeys]
      calc droppedKeys (store.run (operation :: rest)).2 ++
            (store.run (operation :: rest)).1.items.map Prod.fst
          = droppedKeys [(store.perform operation).2] ++
              ((store.perform operation).1.items.map Prod.fst ++
                (store.perform operation).1.newKeys rest) := by
            rw [split, List.append_assoc, ← others]
            rfl
        _ = store.items.map Prod.fst ++ store.newKeys (operation :: rest) := by
            rw [← List.append_assoc, first, List.append_assoc]
            rfl

theorem perform_written (store : Store κ α) (operation : Operation κ α) (key : κ) (known : Option α)
    (current : ∀ value, store.get? key = some value → known = some value) (value : α)
    (found : (store.perform operation).1.get? key = some value) :
    written key known operation = some value := by
  cases operation with
  | insert other fresh =>
      rcases get_insert store other key fresh value found with ⟨rfl, rfl⟩ | ⟨different, old⟩
      · simp [written]
      · rw [written, if_neg (Ne.symm different)]
        exact current value old
  | clear => simp [perform, clear, empty, get?] at found
  | get other => exact current value found
  | contains other => exact current value found
  | items => exact current value found
  | size => exact current value found

-- Generalised over what is known of the key before the operations.
theorem run_written (store : Store κ α) (operations : List (Operation κ α)) (key : κ)
    (known : Option α) (current : ∀ value, store.get? key = some value → known = some value)
    (value : α) (found : (store.run operations).1.get? key = some value) :
    operations.foldl (written key) known = some value := by
  induction operations generalizing store known with
  | nil => exact current value found
  | cons operation rest ih =>
      exact ih (store.perform operation).1 (written key known operation)
        (fun stored present => perform_written store operation key known current stored present) found

-- What a store shows and does after some operations on an empty store.
structure Fifo (capacity : Option Capacity) (operations : List (Operation κ α))
    (store : Store κ α) : Prop where
  distinct : store.order.Nodup
  sameKeys : store.order.Perm store.keys
  inOrder : store.items.map Prod.fst = store.order
  counted : store.size = store.items.length
  bounded : ∀ limit ∈ capacity, store.size ≤ limit.size
  found : ∀ key, store.get? key = store.items.lookup key
  contained : ∀ key, store.contains key ↔ key ∈ store.items.map Prod.fst
  current : ∀ entry ∈ store.items, latest entry.1 operations = some entry.2
  overwrites : ∀ key value, store.contains key →
    (store.insert key value).2 = [] ∧
      (store.insert key value).1.items =
        store.items.map fun entry => if entry.1 = key then (key, value) else entry
  appends : ∀ key value, ¬ store.contains key → ¬ store.isFull →
    (store.insert key value).2 = [] ∧
      (store.insert key value).1.items = store.items ++ [(key, value)]
  evicts : ∀ key value, ¬ store.contains key → store.isFull →
    ∃ oldest rest, store.items = oldest :: rest ∧ (store.insert key value).2 = [oldest] ∧
      (store.insert key value).1.items = rest ++ [(key, value)]
  conserves : ∀ stretch, (∀ operation ∈ stretch, operation ≠ .clear) →
    droppedKeys (store.run stretch).2 ++ (store.run stretch).1.items.map Prod.fst =
      store.items.map Prod.fst ++ store.newKeys stretch
  clears : store.clear.items = [] ∧ store.clear.order = [] ∧ store.clear.values = [] ∧
    store.clear.capacity = capacity
  loopEnds : ∀ limit, Acc (fun next before : Store κ α => Round limit before next) store
  loopRuns : ∀ limit,
    Relation.ReflTransGen (Round limit) store (makeRoom limit store store.order).1 ∧
      ∀ next, ¬ Round limit (makeRoom limit store store.order).1 next
  loopFinds : ∀ limit within oldest rest, Relation.ReflTransGen (Round limit) store within →
    within.order = oldest :: rest → within.contains oldest

theorem run_fifo (capacity : Option Capacity) (operations : List (Operation κ α)) :
    Fifo capacity operations ((empty capacity).run operations).1 := by
  have matched := run_matched (empty capacity) operations (empty_matched capacity)
  have fits := run_fits (empty capacity) operations (empty_fits capacity)
  have same : ((empty capacity).run operations).1.capacity = capacity :=
    run_capacity (empty capacity) operations
  generalize reached : ((empty capacity).run operations).1 = store at matched fits same
  exact {
    distinct := matched.distinct
    sameKeys := matched.held
    inOrder := items_keys store matched
    counted := (items_length store matched).symm
    bounded := fun limit member => by
      rw [size_eq_order store matched]
      exact fits limit (same.symm ▸ member)
    found := fun key => (items_lookup store key matched).symm
    contained := fun key => contains_iff_items store key matched
    current := fun entry member => by
      have there := mem_items store entry.1 entry.2 member
      rw [← reached] at there
      exact run_written (empty capacity) operations entry.1 none
        (fun _ absent => nomatch absent) _ there
    overwrites := fun key value stored => by
      refine ⟨?_, insert_stored_items store key value stored⟩
      rw [insert_stored store key value stored]
    appends := fun key value absent room => insert_new_room store key value matched fits absent room
    evicts := fun key value absent full => insert_new_full store key value matched fits absent full
    conserves := fun stretch kept => run_conserves store stretch matched kept
    clears := ⟨rfl, rfl, rfl, same⟩
    loopEnds := fun limit => (rounds_end limit).apply store
    loopRuns := fun limit =>
      ⟨make_room_rounds limit store store.order rfl, make_room_stops limit store store.order rfl⟩
    loopFinds := fun limit within oldest rest rounds order => by
      have inside := rounds_matched limit store within matched rounds
      rw [contains_iff_order within oldest inside, order]
      exact List.mem_cons_self .. }

end RequestLayer.Store
