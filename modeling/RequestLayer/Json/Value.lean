import RequestLayer.Decimal.Binary64

set_option autoImplicit false

namespace RequestLayer

inductive Number where
  | integer (value : Int)
  | fraction (value : Binary64)
deriving DecidableEq

inductive Json where
  | null
  | bool (value : Bool)
  | number (value : Number)
  | string (value : String)
  | array (items : List Json)
  | object (fields : List (String × Json))
deriving Inhabited

abbrev Fields := List (String × Json)

namespace Fields

def has (fields : Fields) (key : String) : Bool :=
  (fields.lookup key).isSome

-- In its old place or before the first greater key.
def insert (key : String) (value : Json) : Fields → Fields
  | [] => [(key, value)]
  | field :: rest =>
      if key = field.1 then (key, value) :: rest
      else if key < field.1 then (key, value) :: field :: rest
      else field :: insert key value rest

def erase (fields : Fields) (key : String) : Fields :=
  fields.filter (·.1 ≠ key)

-- Of a repeated key the last one counts.
def ofList (fields : List (String × Json)) : Fields :=
  fields.foldl (fun done field => insert field.1 field.2 done) []

theorem lookup_insert (key other : String) (value : Json) (fields : Fields) :
    (insert key value fields).lookup other =
      if other = key then some value else fields.lookup other := by
  induction fields with
  | nil => grind [insert]
  | cons field rest ih => grind [insert]

theorem lookup_erase (fields : Fields) (key other : String) :
    (erase fields key).lookup other = if other = key then none else fields.lookup other := by
  induction fields with
  | nil => simp [erase]
  | cons field rest ih => grind [erase]

end Fields

namespace Json

def ofFields (fields : List (String × Json)) : Json :=
  .object (Fields.ofList fields)

def ofNat (value : Nat) : Json := .number (.integer value)

def ofInt (value : Int) : Json := .number (.integer value)

instance : Coe String Json := ⟨.string⟩

def isNull : Json → Bool
  | .null => true
  | _ => false

def word? : Json → Option Nat
  | .number (.integer value) => if 0 ≤ value ∧ value < Nat.pow 2 64 then some value.toNat else none
  | _ => none

def string? : Json → Option String
  | .string value => some value
  | _ => none

def fields? : Json → Option Fields
  | .object fields => some fields
  | _ => none

def field? (value : Json) (key : String) : Option Json :=
  value.fields?.bind (·.lookup key)

end Json

end RequestLayer
