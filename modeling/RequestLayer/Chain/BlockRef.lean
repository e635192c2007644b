import RequestLayer.Chain.Quantity
import RequestLayer.Fault

set_option autoImplicit false

namespace RequestLayer

inductive BlockTag where
  | earliest
  | latest
  | pending
  | safe
  | finalized
deriving DecidableEq, Repr

namespace BlockTag

def name : BlockTag → String
  | .earliest => "earliest"
  | .latest => "latest"
  | .pending => "pending"
  | .safe => "safe"
  | .finalized => "finalized"

def ofName? : String → Option BlockTag
  | "earliest" => some .earliest
  | "latest" => some .latest
  | "pending" => some .pending
  | "safe" => some .safe
  | "finalized" => some .finalized
  | _ => none

def ofName (name : String) : Except Fault BlockTag :=
  match ofName? name with
  | some tag => .ok tag
  | none => .error (.invalidConfiguration s!"unknown block tag: {name}")

end BlockTag

inductive BlockRef where
  | number (value : Nat)
  | tag (value : BlockTag)
  | hash (value : Bytes32)
deriving DecidableEq

namespace BlockRef

-- An odd number of digits gets a zero in front.
def hash? (text : String) : Option Bytes32 := do
  let digits := (Hexadecimal.unmarked? text.toList).getD text.toList
  let bytes ← Hexadecimal.bytes? (if digits.length % 2 = 1 then '0' :: digits else digits)
  if exact : bytes.toArray.size = 32 then some ⟨bytes.toArray, exact⟩ else none

-- In bytes, with the mark. A string of this length is never a quantity.
def hashTextLength : Nat := 66

def ofJson? (value : Json) : Option BlockRef :=
  match value with
  | .string text =>
      match BlockTag.ofName? text with
      | some named => some (.tag named)
      | none =>
          if text.utf8ByteSize = hashTextLength then (hash? text).map .hash
          else (Quantity.ofJson? value).map .number
  | _ => (Quantity.ofJson? value).map .number

def toJson : BlockRef → Json
  | .number value => Quantity.toJson value
  | .tag named => .string named.name
  | .hash value => .string (Hexadecimal.marked value)

end BlockRef

end RequestLayer
