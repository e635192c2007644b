set_option autoImplicit false

namespace RequestLayer

def Binary64.infinity : Nat := 0x7FF0000000000000

-- The magnitude is a bit pattern below infinity's.
structure Binary64 where
  negative : Bool
  magnitude : Nat
  finite : magnitude < Binary64.infinity
deriving DecidableEq

namespace Binary64

def implicitBit : Nat := Nat.pow 2 52

-- In units of 2^-1074, the smallest positive number of the format.
def units (magnitude : Nat) : Nat :=
  if magnitude < implicitBit then magnitude
  else (implicitBit + magnitude % implicitBit) * Nat.pow 2 (magnitude / implicitBit - 1)

def unitsPerOne : Nat := Nat.pow 2 1074

def roundedQuotient (numerator denominator : Nat) : Nat :=
  let quotient := numerator / denominator
  let twice := 2 * (numerator % denominator)
  if twice < denominator then quotient
  else if denominator < twice then quotient + 1
  else quotient + quotient % 2

-- A fraction beyond the largest finite number gives a pattern at or above `infinity`.
def nearest (numerator denominator : Nat) : Nat :=
  let scaled := numerator * unitsPerOne
  let shift := (scaled / denominator).log2 - 52
  shift * implicitBit + roundedQuotient scaled (denominator * Nat.pow 2 shift)

def product (left right : Nat) : Nat :=
  nearest (units left * units right) (unitsPerOne * unitsPerOne)

def quotient (left right : Nat) : Nat :=
  nearest (units left) (units right)

def powerOfTen (exponent : Nat) : Nat :=
  nearest (Nat.pow 10 exponent) 1

def largestPower : Nat := 308

def dividedByPower (magnitude exponent : Nat) : Nat :=
  if exponent ≤ largestPower then quotient magnitude (powerOfTen exponent)
  else if magnitude = 0 then 0
  else dividedByPower (quotient magnitude (powerOfTen largestPower)) (exponent - largestPower)
termination_by exponent
decreasing_by simp only [largestPower] at *; omega

-- Each factor is rounded before they are combined and the result is rounded again, so it may differ
-- from the nearest number in the last place.
def scaled? (negative : Bool) (significand : Nat) (exponent : Int) : Option Binary64 :=
  let start := nearest significand 1
  let magnitude := match exponent with
    | .ofNat power =>
        if power ≤ largestPower then product start (powerOfTen power)
        else if start = 0 then 0 else infinity
    | .negSucc power => dividedByPower start (power + 1)
  if finite : magnitude < infinity then some ⟨negative, magnitude, finite⟩ else none

def ofNat? (negative : Bool) (value : Nat) : Option Binary64 :=
  scaled? negative value 0

end Binary64

end RequestLayer
