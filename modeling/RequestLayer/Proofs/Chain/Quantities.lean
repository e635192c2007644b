import RequestLayer.Proofs.Chain.Reference

set_option autoImplicit false

namespace RequestLayer

namespace Hexadecimal

theorem number_snoc (digits : List Char) (last : Char) (number value : Nat)
    (before : number? digits = some number) (digit : digit? last = some value) :
    number? (digits ++ [last]) = some (number * 16 + value) := by
  obtain ⟨values, read, rfl⟩ := Option.map_eq_some_iff.mp before
  simp [number?, read, digit]

theorem number_of_digits (number : Nat) : number? (Nat.toDigits 16 number) = some number := by
  induction number using Nat.strongRecOn with
  | ind number ih =>
      by_cases single : number < 16
      · have read := digit_of_char number single
        rw [Nat.toDigits_of_lt_base single]
        simp [number?, read]
      · have last := digit_of_char (number % 16) (Nat.mod_lt number (by decide))
        have before := ih (number / 16) (by omega)
        rw [Nat.toDigits_of_base_le (by decide) (by omega)]
        rw [number_snoc _ _ _ _ before last, Nat.div_add_mod']

end Hexadecimal

namespace Quantity

theorem digits_read (number : Nat) (bounded : number < Nat.pow 2 64) :
    ofDigits? (Nat.toDigits 16 number) = some number := by
  have read := Hexadecimal.number_of_digits number
  cases digits : Nat.toDigits 16 number with
  | nil => exact (Nat.toDigits_ne_nil digits).elim
  | cons first rest =>
      rw [digits] at read
      have unsigned : first ≠ '+' := by
        rintro rfl
        have sign : Hexadecimal.digit? '+' = none := rfl
        simp [Hexadecimal.number?, sign] at read
      unfold ofDigits?
      split
      · rename_i same
        exact (unsigned (List.cons.inj same).1).elim
      · simp [read, bounded]

theorem read_written (number : Nat) (bounded : number < Nat.pow 2 64) :
    ofJson? (toJson number) = some number := by
  have read := digits_read number bounded
  simp [toJson, ofJson?, text, Hexadecimal.unmarked?, read]

theorem digits_bounded (digits : List Char) (number : Nat)
    (read : ofDigits? digits = some number) : number < Nat.pow 2 64 := by
  have unsigned (body : List Char) (read : (if body.isEmpty then none else do
      let number ← Hexadecimal.number? body
      if number < Nat.pow 2 64 then some number else none) = some number) :
      number < Nat.pow 2 64 := by
    by_cases empty : body.isEmpty = true
    · rw [if_pos empty] at read
      cases read
    · rw [if_neg empty] at read
      obtain ⟨value, _, kept⟩ := Option.bind_eq_some_iff.mp read
      by_cases small : value < Nat.pow 2 64
      · rw [if_pos small] at kept
        cases kept
        exact small
      · rw [if_neg small] at kept
        cases kept
  exact unsigned _ read

theorem read_bounded (value : Json) (number : Nat) (read : ofJson? value = some number) :
    number < Nat.pow 2 64 := by
  cases value with
  | string text =>
      obtain ⟨digits, _, given⟩ := Option.bind_eq_some_iff.mp read
      exact digits_bounded digits number given
  | number value =>
      cases value with
      | integer value =>
          have kept : (if 0 ≤ value ∧ value < Nat.pow 2 64 then some value.toNat else none) =
            some number := read
          by_cases small : 0 ≤ value ∧ value < Nat.pow 2 64
          · rw [if_pos small] at kept
            cases kept
            omega
          · rw [if_neg small] at kept
            cases kept
      | fraction value => cases read
  | _ => cases read

end Quantity

end RequestLayer
