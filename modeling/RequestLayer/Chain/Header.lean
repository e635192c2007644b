import RequestLayer.Chain.Quantity
import RequestLayer.Fault

set_option autoImplicit false

namespace RequestLayer

structure Header where
  number : Nat
  timestamp : Option Nat
  gasLimit : Option Nat
  baseFee : Option Nat
deriving DecidableEq, Repr

namespace Header

def quantity (value : Json) : Except Json.Mismatch Nat :=
  match Quantity.ofJson? value with
  | some number => .ok number
  | none => .error (.quantity value)

def optionalQuantity : Option Json → Except Json.Mismatch (Option Nat)
  | none | some .null => .ok none
  | some value => some <$> quantity value

-- Of several unfit fields the first by key is reported.
def ofFields (fields : Fields) : Except Json.Mismatch Header := do
  let baseFee ← optionalQuantity (fields.lookup "baseFeePerGas")
  let gasLimit ← optionalQuantity (fields.lookup "gasLimit")
  let number ← (fields.lookup "number").mapM quantity
  let timestamp ← optionalQuantity (fields.lookup "timestamp")
  match number with
  | some number => return { number, timestamp, gasLimit, baseFee }
  | none => .error (.missingField "number")

def ofItems (items : List Json) : Except Json.Mismatch Header := do
  let number ← match items[0]? with
    | some value => quantity value
    | none => .error (.length 0 "struct BlockHeader with 4 elements")
  let timestamp ← optionalQuantity items[1]?
  let gasLimit ← optionalQuantity items[2]?
  let baseFee ← optionalQuantity items[3]?
  if 4 < items.length then .error (.length items.length "fewer elements in array")
  else return { number, timestamp, gasLimit, baseFee }

def ofJson : Json → Except Json.Mismatch Header
  | .object fields => ofFields fields
  | .array items => ofItems items
  | value => .error (.kind value.shape "struct BlockHeader")

-- The result is null when there is no such block.
def ofResult (result : Json) : Except Fault Header :=
  if result.isNull then .error (.invalidResponse "block not found")
  else (ofJson result).mapError .ofMismatch

end Header

end RequestLayer
