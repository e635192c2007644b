import RequestLayer.Text.Description

set_option autoImplicit false

namespace RequestLayer

structure Capacity where
  size : Nat
  positive : 0 < size
deriving DecidableEq, Repr

def Capacity.ofNat? (size : Nat) : Option Capacity :=
  if positive : 0 < size then some ⟨size, positive⟩ else none

structure Store (κ α : Type) where
  capacity : Option Capacity
  -- From the oldest to the newest.
  order : List κ
  values : List (κ × α)

namespace Store

variable {κ α : Type} [DecidableEq κ]

def empty (capacity : Option Capacity) : Store κ α := ⟨capacity, [], []⟩

instance : Inhabited (Store κ α) := ⟨empty none⟩

def get? (store : Store κ α) (key : κ) : Option α :=
  store.values.lookup key

def contains (store : Store κ α) (key : κ) : Bool :=
  (store.get? key).isSome

def size (store : Store κ α) : Nat := store.values.length

def isEmpty (store : Store κ α) : Bool := store.size == 0

def items (store : Store κ α) : List (κ × α) :=
  store.order.filterMap fun key => (store.get? key).map fun value => (key, value)

def clear (store : Store κ α) : Store κ α := empty store.capacity

def dropOldest (store : Store κ α) (oldest : κ) (rest : List κ) : Store κ α × List (κ × α) :=
  ({ store with order := rest, values := store.values.filter fun entry => entry.1 ≠ oldest },
    ((store.get? oldest).map fun value => (oldest, value)).toList)

def makeRoom (limit : Nat) (store : Store κ α) : List κ → Store κ α × List (κ × α)
  | [] => (store, [])
  | oldest :: rest =>
      if limit ≤ rest.length + 1 then
        let (smaller, dropped) := store.dropOldest oldest rest
        let (result, others) := makeRoom limit smaller rest
        (result, dropped ++ others)
      else (store, [])

def insert (store : Store κ α) (key : κ) (value : α) : Store κ α × List (κ × α) :=
  if store.contains key then
    ({ store with
        values := store.values.map fun entry => if entry.1 = key then (key, value) else entry }, [])
  else
    let (roomy, dropped) := match store.capacity with
      | some capacity => makeRoom capacity.size store store.order
      | none => (store, [])
    ({ roomy with order := roomy.order ++ [key], values := (key, value) :: roomy.values }, dropped)

def description (store : Store κ α) : String :=
  Text.record "SimpleCache"
    [("capacity", Text.optional (store.capacity.map fun capacity => toString capacity.size)),
      ("len", toString store.size)]

end Store

end RequestLayer
