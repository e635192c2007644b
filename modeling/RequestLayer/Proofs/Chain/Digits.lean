import Mathlib.Data.List.Induction
import RequestLayer.Proofs.Chain.Quantities

set_option autoImplicit false

namespace RequestLayer

namespace Hexadecimal

def Digit (c : Char) (value : Nat) : Prop :=
  value < 16 ∧ (c = Nat.digitChar value ∨ c = (Nat.digitChar value).toUpper)

instance (c : Char) (value : Nat) : Decidable (Digit c value) :=
  inferInstanceAs (Decidable (_ ∧ (_ ∨ _)))

inductive Numeral : List Char → Nat → Prop
  | none : Numeral [] 0
  | more (digits : List Char) (last : Char) (number value : Nat) (before : Numeral digits number)
      (digit : Digit last value) : Numeral (digits ++ [last]) (number * 16 + value)

inductive Spells : List Char → List UInt8 → Prop
  | none : Spells [] []
  | more (high low : Char) (upper lower : Nat) (digits : List Char) (bytes : List UInt8)
      (first : Digit high upper) (second : Digit low lower) (rest : Spells digits bytes) :
      Spells (high :: low :: digits) (UInt8.ofNat (upper * 16 + lower) :: bytes)

def Digits (digits : List Char) : Prop := ∀ c ∈ digits, ∃ value, Digit c value

theorem digit_ascii (c : Char) (value : Nat) (read : digit? c = some value) : c.toNat < 128 := by
  have small (bound : Char) (below : c ≤ bound) : c.toNat ≤ bound.toNat := below
  unfold digit? at read
  split at read
  · exact Nat.lt_of_le_of_lt (small '9' (by simp_all)) (by decide)
  · split at read
    · exact Nat.lt_of_le_of_lt (small 'f' (by simp_all)) (by decide)
    · split at read
      · exact Nat.lt_of_le_of_lt (small 'F' (by simp_all)) (by decide)
      · cases read

theorem digit_of_code : ∀ code < 128, ∀ value ∈ digit? (Char.ofNat code),
    Digit (Char.ofNat code) value := by
  decide

theorem char_of_digit : ∀ value < 16, digit? (Nat.digitChar value) = some value ∧
    digit? (Nat.digitChar value).toUpper = some value := by
  decide

theorem digit_iff (c : Char) (value : Nat) : digit? c = some value ↔ Digit c value := by
  constructor
  · intro read
    have known := digit_of_code c.toNat (digit_ascii c value read) value
    rw [Char.ofNat_toNat] at known
    exact known read
  · rintro ⟨small, rfl | rfl⟩
    · exact (char_of_digit value small).1
    · exact (char_of_digit value small).2

theorem number_snoc_iff (digits : List Char) (last : Char) (number : Nat) :
    number? (digits ++ [last]) = some number ↔ ∃ before value,
      number? digits = some before ∧ digit? last = some value ∧ before * 16 + value = number := by
  cases read : digits.mapM digit? with
  | none => simp [number?, read]
  | some values =>
      cases digit : digit? last with
      | none => simp [number?, digit]
      | some value => simp [number?, read, digit]

theorem number_iff (digits : List Char) (number : Nat) :
    number? digits = some number ↔ Numeral digits number := by
  induction digits using List.reverseRecOn generalizing number with
  | nil =>
      constructor
      · rintro ⟨rfl⟩
        exact .none
      · intro numeral
        generalize empty : [] = digits at numeral
        cases numeral with
        | none => rfl
        | more => simp at empty
  | append_singleton digits last ih =>
      rw [number_snoc_iff]
      constructor
      · rintro ⟨before, value, read, digit, rfl⟩
        exact .more digits last before value ((ih before).mp read) ((digit_iff last value).mp digit)
      · intro numeral
        generalize whole : digits ++ [last] = all at numeral
        cases numeral with
        | none => simp at whole
        | more early final before value numeral digit =>
            obtain ⟨rfl, ⟨rfl⟩⟩ := List.append_inj' whole rfl
            exact ⟨before, value, (ih before).mpr numeral, (digit_iff last value).mpr digit, rfl⟩

theorem bytes_iff (digits : List Char) (bytes : List UInt8) :
    bytes? digits = some bytes ↔ Spells digits bytes := by
  constructor
  · intro read
    fun_induction bytes? digits generalizing bytes with
    | case1 =>
        cases read
        exact .none
    | case2 high low digits ih =>
        obtain ⟨upper, first, read⟩ := Option.bind_eq_some_iff.mp read
        obtain ⟨lower, second, read⟩ := Option.bind_eq_some_iff.mp read
        obtain ⟨others, rest, same⟩ := Option.bind_eq_some_iff.mp read
        cases same
        exact .more high low upper lower digits others ((digit_iff high upper).mp first)
          ((digit_iff low lower).mp second) (ih others rest)
    | case3 => cases read
  · intro spelled
    induction spelled with
    | none => rfl
    | more high low upper lower digits bytes first second rest ih =>
        simp [bytes?, (digit_iff high upper).mpr first, (digit_iff low lower).mpr second, ih]

theorem spelled_length (digits : List Char) (bytes : List UInt8) (spelled : Spells digits bytes) :
    digits.length = 2 * bytes.length := by
  induction spelled with
  | none => rfl
  | more high low upper lower digits bytes first second rest ih =>
      simp only [List.length_cons, ih]
      omega

theorem spelled_digits (digits : List Char) (bytes : List UInt8) (spelled : Spells digits bytes) :
    Digits digits := by
  induction spelled with
  | none => simp [Digits]
  | more high low upper lower digits bytes first second rest ih =>
      intro c member
      simp only [List.mem_cons] at member
      rcases member with rfl | rfl | later
      · exact ⟨upper, first⟩
      · exact ⟨lower, second⟩
      · exact ih c later

theorem digits_spell (count : Nat) (digits : List Char) (whole : digits.length = 2 * count)
    (each : Digits digits) : ∃ bytes, bytes.length = count ∧ Spells digits bytes := by
  induction count generalizing digits with
  | zero =>
      rw [List.eq_nil_of_length_eq_zero whole]
      exact ⟨[], rfl, .none⟩
  | succ count ih =>
      match digits, whole, each with
      | high :: low :: rest, whole, each =>
          obtain ⟨upper, first⟩ := each high (by simp)
          obtain ⟨lower, second⟩ := each low (by simp)
          simp only [List.length_cons] at whole
          obtain ⟨bytes, length, spelled⟩ := ih rest (by omega) fun c member => each c (by simp [member])
          exact ⟨_, by simp [length], .more high low upper lower rest bytes first second spelled⟩

theorem digits_size (digits : List Char) (each : Digits digits) :
    (String.ofList digits).utf8ByteSize = digits.length := by
  induction digits with
  | nil => rfl
  | cons c rest ih =>
      obtain ⟨value, digit⟩ := each c List.mem_cons_self
      have ascii := digit_ascii c value ((digit_iff c value).mpr digit)
      have single : c.utf8Size = 1 := Char.utf8Size_eq_one_iff.mpr (by
        change c.toNat ≤ 127
        omega)
      rw [String.ofList_cons, String.utf8ByteSize_append, String.utf8ByteSize_singleton, single,
        ih fun other member => each other (List.mem_cons_of_mem c member), List.length_cons,
        Nat.add_comm]

theorem marked_size (digits : List Char) (each : Digits digits) :
    (String.ofList ('0' :: 'x' :: digits)).utf8ByteSize = digits.length + 2 := by
  have mark : String.ofList ('0' :: 'x' :: digits) = "0x" ++ String.ofList digits := by
    rw [String.ofList_cons, String.ofList_cons, ← String.append_assoc]
    rfl
  rw [mark, String.utf8ByteSize_append, digits_size digits each, Nat.add_comm]
  rfl

theorem numeral_digits (digits : List Char) (number : Nat) (numeral : Numeral digits number) :
    Digits digits := by
  induction numeral with
  | none => simp [Digits]
  | more digits last number value before digit ih =>
      intro c member
      rcases List.mem_append.mp member with early | late
      · exact ih c early
      · rw [List.mem_singleton.mp late]
        exact ⟨value, digit⟩

theorem mark_no_digit (value : Nat) : ¬ Digit 'x' value := by
  intro digit
  have none : digit? 'x' = none := rfl
  rw [(digit_iff 'x' value).mpr digit] at none
  cases none

theorem plus_no_digit (value : Nat) : ¬ Digit '+' value := by
  intro digit
  have none : digit? '+' = none := rfl
  rw [(digit_iff '+' value).mpr digit] at none
  cases none

end Hexadecimal

end RequestLayer
