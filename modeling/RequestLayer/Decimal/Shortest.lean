import RequestLayer.Decimal.Binary64

set_option autoImplicit false

namespace RequestLayer

structure Decimal where
  significand : Nat
  exponent : Int
deriving DecidableEq, Repr

namespace Decimal

def fraction (decimal : Decimal) : Nat × Nat :=
  match decimal.exponent with
  | .ofNat power => (decimal.significand * Nat.pow 10 power, 1)
  | .negSucc power => (decimal.significand, Nat.pow 10 (power + 1))

def magnitude (decimal : Decimal) : Nat :=
  Binary64.nearest decimal.fraction.1 decimal.fraction.2

def digitCount (value : Nat) : Nat :=
  if value = 0 then 0 else digitCount (value / 10) + 1

def leadingPower (magnitude : Nat) : Int :=
  let units := Binary64.units magnitude
  if Binary64.unitsPerOne ≤ units then digitCount (units / Binary64.unitsPerOne) - 1
  else -(digitCount ((Binary64.unitsPerOne - 1) / units) : Int)

def measured (magnitude : Nat) (exponent : Int) : Nat × Nat :=
  match exponent with
  | .ofNat power => (Binary64.units magnitude, Binary64.unitsPerOne * Nat.pow 10 power)
  | .negSucc power => (Binary64.units magnitude * Nat.pow 10 (power + 1), Binary64.unitsPerOne)

def trimmed (significand : Nat) (exponent : Int) : Decimal :=
  if significand ≠ 0 ∧ significand % 10 = 0 then trimmed (significand / 10) (exponent + 1)
  else ⟨significand, exponent⟩
termination_by significand
decreasing_by omega

-- Of the two neighbours the one that reads back; of two the nearer, of two equally near the even
-- one.
def neighbour? (readsBack : Decimal → Bool) (numerator denominator : Nat) (exponent : Int) :
    Option Decimal :=
  let below : Decimal := ⟨numerator / denominator, exponent⟩
  let above : Decimal := ⟨numerator / denominator + 1, exponent⟩
  match readsBack below, readsBack above with
  | true, true => some ⟨Binary64.roundedQuotient numerator denominator, exponent⟩
  | true, false => some below
  | false, true => some above
  | false, false => none

def onGrid? (magnitude : Nat) (exponent : Int) : Option Decimal :=
  let measure := measured magnitude exponent
  neighbour? (fun decimal => decimal.magnitude == magnitude) measure.1 measure.2 exponent

def exact (magnitude : Nat) : Decimal :=
  ⟨Binary64.units magnitude * Nat.pow 5 1074, -1074⟩

def shortest (magnitude : Nat) : Decimal :=
  let power := leadingPower magnitude
  let found := (List.range 17).findSome? fun (more : Nat) => onGrid? magnitude (power - more)
  let decimal := found.getD (exact magnitude)
  trimmed decimal.significand decimal.exponent

def text (decimal : Decimal) : List Char :=
  let digits := Nat.toDigits 10 decimal.significand
  let point : Int := digits.length + decimal.exponent
  let zeros (amount : Int) := List.replicate amount.toNat '0'
  if 0 ≤ decimal.exponent ∧ point ≤ 16 then digits ++ zeros decimal.exponent ++ ['.', '0']
  else if 0 < point ∧ point ≤ 16 then
    digits.take point.toNat ++ '.' :: digits.drop point.toNat
  else if -5 < point ∧ point ≤ 0 then '0' :: '.' :: zeros (-point) ++ digits
  else
    let rest := digits.drop 1
    let power := point - 1
    digits.take 1 ++ (if rest.isEmpty then [] else '.' :: rest) ++
      'e' :: (if power < 0 then '-' else '+') :: Nat.toDigits 10 power.natAbs

end Decimal

def Binary64.text (value : Binary64) : List Char :=
  (if value.negative then ['-'] else []) ++
    if value.magnitude = 0 then ['0', '.', '0'] else (Decimal.shortest value.magnitude).text

end RequestLayer
