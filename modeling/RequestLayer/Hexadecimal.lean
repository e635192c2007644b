set_option autoImplicit false

namespace RequestLayer

abbrev Bytes32 := Vector UInt8 32

namespace Hexadecimal

def digit? (c : Char) : Option Nat :=
  if '0' ≤ c ∧ c ≤ '9' then some (c.toNat - 48)
  else if 'a' ≤ c ∧ c ≤ 'f' then some (c.toNat - 87)
  else if 'A' ≤ c ∧ c ≤ 'F' then some (c.toNat - 55)
  else none

def number? (digits : List Char) : Option Nat :=
  (digits.mapM digit?).map fun values => values.foldl (fun number value => number * 16 + value) 0

def bytes? : List Char → Option (List UInt8)
  | [] => some []
  | high :: low :: rest => do
      let high ← digit? high
      let low ← digit? low
      let others ← bytes? rest
      return UInt8.ofNat (high * 16 + low) :: others
  | [_] => none

def ofBytes (bytes : List UInt8) : List Char :=
  bytes.flatMap fun byte => [Nat.digitChar (byte.toNat / 16), Nat.digitChar (byte.toNat % 16)]

def marked (bytes : Bytes32) : String :=
  String.ofList ('0' :: 'x' :: ofBytes bytes.toList)

def unmarked? : List Char → Option (List Char)
  | '0' :: 'x' :: rest => some rest
  | _ => none

end Hexadecimal

end RequestLayer
