set_option autoImplicit false

namespace RequestLayer

structure Delay where
  nanoseconds : Nat
deriving DecidableEq, Repr

namespace Delay

def ofMilliseconds (count : Nat) : Delay := ⟨count * 1000000⟩

def ofSeconds (count : Nat) : Delay := ⟨count * 1000000000⟩

-- The whole seconds alone.
def seconds (delay : Delay) : Nat := delay.nanoseconds / 1000000000

def isZero (delay : Delay) : Bool := delay.nanoseconds == 0

-- A number of units of which each is 10 ^ places, with as many decimal places as needed.
def pointed (count places : Nat) : String :=
  let unit := Nat.pow 10 places
  let digits := ((Nat.toDigits 10 (unit + count % unit)).drop 1).reverse.dropWhile (· = '0')
  if digits = [] then s!"{count / unit}"
  else s!"{count / unit}." ++ String.ofList digits.reverse

-- In the largest unit of which there is at least one.
def text (delay : Delay) : String :=
  let count := delay.nanoseconds
  if 1000000000 ≤ count then pointed count 9 ++ "s"
  else if 1000000 ≤ count then pointed count 6 ++ "ms"
  else if 1000 ≤ count then pointed count 3 ++ "µs"
  else s!"{count}ns"

end Delay

end RequestLayer
