import RequestLayer.Fault
import RequestLayer.Text.Description

set_option autoImplicit false

namespace RequestLayer

structure Named (α : Type) where
  name : String
  item : α

structure Stack (α : Type) where
  layers : List (Named α)

namespace Stack

variable {α : Type}

def empty : Stack α := ⟨[]⟩

instance : Inhabited (Stack α) := ⟨empty⟩

def names (stack : Stack α) : List String :=
  stack.layers.map Named.name

def items (stack : Stack α) : List α :=
  stack.layers.map Named.item

def size (stack : Stack α) : Nat := stack.layers.length

def isEmpty (stack : Stack α) : Bool := stack.layers.isEmpty

def has (stack : Stack α) (name : String) : Bool :=
  stack.names.contains name

def get? (stack : Stack α) (name : String) : Option α :=
  (stack.layers.find? (·.name == name)).map Named.item

-- Edits happen in place, so what an edit did before a fault would stay done.
section Edits

variable (name : String) (item : α)

def newLayer : ExceptT Fault (StateM (Stack α)) (Named α) := do
  if (← get).has name then throw (.duplicateLayer name)
  return ⟨name, item⟩

-- Puts a layer inside all others.
def add : ExceptT Fault (StateM (Stack α)) Unit := do
  let layer ← newLayer name item
  modify fun stack => ⟨stack.layers ++ [layer]⟩

-- Puts a layer at a position, or inside all others if the position is past the end.
def inject (position : Nat) : ExceptT Fault (StateM (Stack α)) Unit := do
  let layer ← newLayer name item
  modify fun stack => ⟨stack.layers.insertIdx (min position stack.size) layer⟩

def position : ExceptT Fault (StateM (Stack α)) Nat := do
  match (← get).layers.findIdx? (·.name == name) with
  | some position => return position
  | none => throw (.unknownLayer name)

def replace : ExceptT Fault (StateM (Stack α)) Unit := do
  let position ← position name
  modify fun stack => ⟨stack.layers.modify position fun layer => { layer with item }⟩

def remove : ExceptT Fault (StateM (Stack α)) Unit := do
  let position ← position name
  modify fun stack => ⟨stack.layers.eraseIdx position⟩

def clear : ExceptT Fault (StateM (Stack α)) Unit :=
  set (empty : Stack α)

end Edits

def description (stack : Stack α) : String :=
  Text.record "MiddlewareOnion" [("layers", Text.listing (stack.names.map Text.quoted))]

end Stack

end RequestLayer
