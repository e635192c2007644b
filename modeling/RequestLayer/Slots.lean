set_option autoImplicit false

namespace RequestLayer

structure Cell (m : Type → Type) (α : Type) where
  read : m α
  write : α → m Unit

structure Slots (α : Type) where
  written : List (Nat × α)

namespace Slots

variable {α : Type}

def empty : Slots α := ⟨[]⟩

instance : Inhabited (Slots α) := ⟨empty⟩

def put (slot : Nat) (value : α) : List (Nat × α) → List (Nat × α)
  | [] => [(slot, value)]
  | entry :: rest =>
      if entry.1 = slot then (slot, value) :: rest else entry :: put slot value rest

def write (slots : Slots α) (slot : Nat) (value : α) : Slots α :=
  ⟨put slot value slots.written⟩

def read [Inhabited α] (slots : Slots α) (slot : Nat) : α :=
  (slots.written.lookup slot).getD default

theorem lookup_put (slot other : Nat) (value : α) (entries : List (Nat × α)) :
    (put slot value entries).lookup other =
      if other = slot then some value else entries.lookup other := by
  induction entries with
  | nil => grind [put]
  | cons entry rest ih => grind [put]

theorem read_write [Inhabited α] (slots : Slots α) (slot other : Nat) (value : α) :
    (slots.write slot value).read other = if other = slot then value else slots.read other := by
  unfold read write
  rw [lookup_put]
  by_cases same : other = slot <;> simp [same]

end Slots

end RequestLayer
