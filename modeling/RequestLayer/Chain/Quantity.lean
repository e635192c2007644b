import RequestLayer.Hexadecimal
import RequestLayer.Json.Value

set_option autoImplicit false

namespace RequestLayer.Quantity

def ofDigits? (digits : List Char) : Option Nat := do
  let digits := match digits with
    | '+' :: rest => rest
    | _ => digits
  if digits.isEmpty then none
  else
    let number ← Hexadecimal.number? digits
    if number < Nat.pow 2 64 then some number else none

def ofJson? : Json → Option Nat
  | .string text => do ofDigits? (← Hexadecimal.unmarked? text.toList)
  | value => value.word?

def text (number : Nat) : String :=
  String.ofList ('0' :: 'x' :: Nat.toDigits 16 number)

def toJson (number : Nat) : Json :=
  .string (text number)

end RequestLayer.Quantity
