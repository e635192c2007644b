import RequestLayer.Proofs.Json.Layout
import RequestLayer.Proofs.Outcomes

set_option autoImplicit false

namespace RequestLayer.Json.Reader

def digitValue (c : Char) : Nat := c.toNat - 48

def unsigned (negative : Bool) : Reader Number := fun text => do
  let (whole, text) ← wholeDigits text
  let (fraction, text) ← fractionDigits? text
  let (power, text) ← exponent? text
  match numberOf? negative whole fraction power with
  | some value => return (value, text)
  | none => .error .malformed

theorem number_positive (text : List Char) (leading : Decimal.Leading text) :
    number text = unsigned false text := by
  obtain ⟨c, rest, rfl, digit⟩ := leading
  unfold number
  split
  rename_i same
  split at same
  · rename_i minus
    rw [(List.cons.inj minus).1] at digit
    cases digit
  · cases same
    rfl

theorem fold_digits (text : List Char) (value : Nat) :
    (text.map digitValue).foldl (fun value digit => value * 10 + digit) value =
      Nat.ofDigitChars 10 text value := by
  induction text generalizing value with
  | nil => rfl
  | cons c rest ih =>
      rw [List.map_cons, List.foldl_cons, ih, Nat.ofDigitChars_cons, Nat.mul_comm]
      rfl

theorem accumulate_whole (digits : List Nat) (value : Nat)
    (all : (accumulate value digits).2 = []) :
    (accumulate value digits).1 = digits.foldl (fun value digit => value * 10 + digit) value := by
  induction digits generalizing value with
  | nil => rfl
  | cons digit rest ih =>
      rw [accumulate] at all ⊢
      by_cases fits : value * 10 + digit < Nat.pow 2 64
      · rw [if_pos fits] at all ⊢
        exact ih _ all
      · rw [if_neg fits] at all
        cases all

theorem fold_grows (digits : List Nat) (value : Nat) :
    value ≤ digits.foldl (fun value digit => value * 10 + digit) value := by
  induction digits generalizing value with
  | nil => exact Nat.le_refl value
  | cons digit rest ih =>
      have larger : value ≤ value * 10 + digit := by omega
      exact Nat.le_trans larger (ih _)

theorem accumulate_small (digits : List Nat) (value : Nat)
    (small : digits.foldl (fun value digit => value * 10 + digit) value < Nat.pow 2 64) :
    accumulate value digits =
      (digits.foldl (fun value digit => value * 10 + digit) value, []) := by
  induction digits generalizing value with
  | nil => rfl
  | cons digit rest ih =>
      have fits : value * 10 + digit < Nat.pow 2 64 := Nat.lt_of_le_of_lt (fold_grows rest _) small
      rw [accumulate, if_pos fits]
      exact ih _ small

theorem leading_digit (number : Nat) (positive : 0 < number) :
    ∃ c rest, Nat.toDigits 10 number = c :: rest ∧ 0 < digitValue c := by
  induction number using Nat.strongRecOn with
  | ind number ih =>
      by_cases single : number < 10
      · rw [Nat.toDigits_of_lt_base single]
        refine ⟨_, [], rfl, ?_⟩
        interval_cases number
        all_goals decide
      · obtain ⟨c, rest, digits, leading⟩ := ih (number / 10) (by omega) (by omega)
        rw [Nat.toDigits_of_base_le (by decide) (by omega), digits]
        exact ⟨c, _, rfl, leading⟩

theorem digits_cut (digits rest : List Char) (all : Decimal.Digits digits)
    (ended : ∀ c others, rest = c :: others → c.isDigit = false) :
    Reader.digits (digits ++ rest) = (digits.map digitValue, rest) := by
  have stop : rest.takeWhile Char.isDigit = [] ∧ rest.dropWhile Char.isDigit = rest := by
    cases rest with
    | nil => exact ⟨rfl, rfl⟩
    | cons c others =>
        have no := ended c others rfl
        exact ⟨List.takeWhile_cons_of_neg (by simp [no]), List.dropWhile_cons_of_neg (by simp [no])⟩
  unfold Reader.digits
  rw [List.takeWhile_append_of_pos all, List.dropWhile_append_of_pos all, stop.1, stop.2,
    List.append_nil]
  rfl

theorem whole_digits_cut (text rest : List Char) (whole : List Nat)
    (read : wholeDigits text = .ok (whole, rest)) : Reader.digits text = (whole, rest) := by
  unfold wholeDigits someDigits at read
  rcases found : Reader.digits text with ⟨values, after⟩
  rw [found] at read
  cases values with
  | nil => cases after with
    | nil => cases read
    | cons c others => cases read
  | cons value others =>
      split at read
      · cases read
      · cases read
        rfl

theorem whole_digits_read (number : Nat) (rest : List Char)
    (ended : ∀ c others, rest = c :: others → c.isDigit = false) :
    wholeDigits (Nat.toDigits 10 number ++ rest) =
      .ok ((Nat.toDigits 10 number).map digitValue, rest) := by
  unfold wholeDigits someDigits
  rw [digits_cut _ rest (Decimal.digits_of number) ended]
  by_cases zero : number = 0
  · subst zero
    rfl
  · obtain ⟨c, others, digits, leading⟩ := leading_digit number (Nat.pos_of_ne_zero zero)
    rw [digits, List.map_cons]
    split
    · rename_i same
      have first := (List.cons.inj (Prod.mk.inj (Except.ok.inj same)).1).1
      exact absurd first (Nat.ne_of_gt leading)
    · rfl

theorem point_absent (text after : List Char)
    (read : fractionDigits? text = .ok (none, after)) :
    after = text ∧ ∀ others, text ≠ '.' :: others := by
  unfold fractionDigits? at read
  split at read
  · obtain ⟨found, _, read⟩ := (bind_ok _ _ _).mp read
    cases read
  · rename_i _ plain
    cases read
    exact ⟨rfl, plain⟩

theorem exponent_absent (text after : List Char) (read : exponent? text = .ok (none, after)) :
    after = text ∧ ∀ others, text ≠ 'e' :: others := by
  unfold exponent? at read
  split at read
  · cases read
    exact ⟨rfl, fun _ => nofun⟩
  · rename_i c rest
    by_cases mark : c = 'e' ∨ c = 'E'
    · rw [if_pos mark] at read
      dsimp only at read
      obtain ⟨found, _, read⟩ := (bind_ok _ _ _).mp read
      cases read
    · rw [if_neg mark] at read
      cases read
      exact ⟨rfl, fun others same => mark (.inl (List.cons.inj same).1)⟩

theorem integer_plain (negative : Bool) (whole : List Nat) (fraction : Option (List Nat))
    (power : Option Int) (value : Int)
    (read : numberOf? negative whole fraction power = some (.integer value)) :
    fraction = none ∧ power = none := by
  cases fraction with
  | none =>
      cases power with
      | none => exact ⟨rfl, rfl⟩
      | some power =>
          obtain ⟨_, _, same⟩ := Option.map_eq_some_iff.mp read
          cases same
  | some places =>
      obtain ⟨_, _, same⟩ := Option.map_eq_some_iff.mp read
      cases same

theorem integer_unsigned (negative : Bool) (text after : List Char) (value : Int)
    (read : unsigned negative text = .ok (.integer value, after)) :
    ∃ whole, Reader.digits text = (whole, after) ∧
      (∀ others, after ≠ '.' :: others ∧ after ≠ 'e' :: others) ∧
      numberOf? negative whole none none = some (.integer value) := by
  obtain ⟨⟨whole, text₁⟩, digits, read⟩ := (bind_ok _ _ _).mp read
  obtain ⟨⟨fraction, text₂⟩, point, read⟩ := (bind_ok _ _ _).mp read
  obtain ⟨⟨power, text₃⟩, exponent, read⟩ := (bind_ok _ _ _).mp read
  dsimp only at point exponent read
  split at read
  · rename_i found number
    cases read
    obtain ⟨rfl, rfl⟩ := integer_plain negative whole fraction power value number
    obtain ⟨rfl, unpointed⟩ := point_absent text₁ text₂ point
    obtain ⟨rfl, unmarked⟩ := exponent_absent _ _ exponent
    exact ⟨whole, whole_digits_cut text _ whole digits,
      fun others => ⟨unpointed others, unmarked others⟩, number⟩
  · cases read

theorem numeral_cut (text rest : List Char) (value : ℚ) (numeral : Decimal.Numeral text value) :
    ∃ mark others, (Reader.digits (text ++ rest)).2 = mark :: others ∧
      (mark = '.' ∨ mark = 'e') := by
  cases numeral with
  | point whole places _ digits _ =>
      rw [List.append_assoc, digits_cut whole _ digits]
      · exact ⟨'.', _, rfl, .inl rfl⟩
      · intro c others same
        rw [← (List.cons.inj same).1]
        rfl
  | exponent whole places power _ digits _ =>
      rw [List.append_assoc, List.append_assoc]
      rw [digits_cut whole _ digits]
      · unfold Decimal.pointed
        split
        · exact ⟨'e', _, rfl, .inr rfl⟩
        · exact ⟨'.', _, rfl, .inl rfl⟩
      · intro c others same
        unfold Decimal.pointed at same
        split at same
        all_goals
          rw [← (List.cons.inj same).1]
          rfl

theorem fraction_not_integer (value : Binary64) (rest after : List Char) (read : Int) :
    number ((Number.fraction value).text ++ rest) ≠ .ok (.integer read, after) := by
  intro same
  have unread (negative : Bool) : unsigned negative
      ((Binary64.unsigned value.magnitude).text ++ rest) ≠ .ok (.integer read, after) := by
    intro same
    obtain ⟨whole, digits, unmarked, _⟩ := integer_unsigned negative _ after read same
    obtain ⟨mark, others, stopped, marks⟩ :=
      numeral_cut _ rest _ (Decimal.text_numeral (Binary64.unsigned value.magnitude))
    rw [digits] at stopped
    rcases marks with rfl | rfl
    · exact (unmarked others).1 stopped
    · exact (unmarked others).2 stopped
  rw [Number.text, Binary64.text_unsigned] at same
  split at same
  · exact unread true same
  · rw [List.nil_append, number_positive _
      (Decimal.leading_append _ rest (Number.fraction_leading _))] at same
    exact unread false same

variable {rest : List Char}

theorem stops_plain (stops : Stops rest) (c : Char) (others : List Char)
    (same : rest = c :: others) : c.isDigit = false ∧ c ≠ '.' ∧ c ≠ 'e' ∧ c ≠ 'E' := by
  have stop := stops c others same
  simp only [List.mem_cons, List.not_mem_nil, or_false] at stop
  rcases stop with rfl | rfl | rfl | rfl | rfl | rfl | rfl
  all_goals decide

theorem stops_digits (stops : Stops rest) (c : Char) (others : List Char)
    (same : rest = c :: others) : c.isDigit = false :=
  (stops_plain stops c others same).1

theorem stops_point (stops : Stops rest) : fractionDigits? rest = .ok (none, rest) := by
  unfold fractionDigits?
  split
  · rename_i others
    exact absurd rfl (stops_plain stops '.' others rfl).2.1
  · rfl

theorem stops_exponent (stops : Stops rest) : exponent? rest = .ok (none, rest) := by
  cases rest with
  | nil => rfl
  | cons c others =>
      obtain ⟨_, _, small, capital⟩ := stops_plain stops c others rfl
      exact if_neg (not_or.mpr ⟨small, capital⟩)

theorem integer_digits (value : Nat) :
    (Number.integer value).text = Nat.toDigits 10 value := by
  rw [Number.text, if_neg (by omega), List.nil_append, Int.natAbs_natCast]

theorem digits_value (value : Nat) (small : value < Nat.pow 2 64) :
    accumulate 0 ((Nat.toDigits 10 value).map digitValue) = (value, []) := by
  have whole := fold_digits (Nat.toDigits 10 value) 0
  rw [Nat.ofDigitChars_ten_toDigits] at whole
  have read := accumulate_small ((Nat.toDigits 10 value).map digitValue) 0 (by rwa [whole])
  rwa [whole] at read

-- A negative amount is not zero and at most 2^63, so that it fits 64 bits.
theorem unsigned_reads (negative : Bool) (value : Nat) (small : value < Nat.pow 2 64)
    (signed : negative = true → 0 < value ∧ value ≤ Nat.pow 2 63) (stops : Stops rest) :
    unsigned negative (Nat.toDigits 10 value ++ rest) =
      .ok (.integer (if negative then -value else value), rest) := by
  have found : numberOf? negative ((Nat.toDigits 10 value).map digitValue) none none =
      some (.integer (if negative then -value else value)) := by
    unfold numberOf?
    rw [digits_value value small]
    exact if_pos ⟨rfl, signed⟩
  have digits := whole_digits_read value rest (stops_digits stops)
  refine (bind_ok _ _ _).mpr ⟨_, digits, (bind_ok _ _ _).mpr ⟨_, stops_point stops,
    (bind_ok _ _ _).mpr ⟨_, stops_exponent stops, ?_⟩⟩⟩
  dsimp only
  rw [found]
  rfl

theorem number_reads (value : Nat) (small : value < Nat.pow 2 64) (stops : Stops rest) :
    number ((Number.integer value).text ++ rest) = .ok (.integer value, rest) := by
  have leading := Decimal.digits_leading _ Nat.toDigits_ne_nil (Decimal.digits_of value)
  rw [integer_digits, number_positive _ (Decimal.leading_append _ rest leading)]
  exact unsigned_reads false value small nofun stops

theorem integer_reads (value : Int) (least : -Nat.pow 2 63 ≤ value) (below : value < Nat.pow 2 64)
    (stops : Stops rest) :
    number ((Number.integer value).text ++ rest) = .ok (.integer value, rest) := by
  by_cases negative : value < 0
  · have amount : -(value.natAbs : Int) = value := by omega
    have powers : Nat.pow 2 63 < Nat.pow 2 64 := by decide
    have read := unsigned_reads true value.natAbs (by omega) (fun _ => by omega) stops
    rw [if_pos rfl, amount] at read
    rw [Number.text, if_pos negative]
    exact read
  · obtain ⟨amount, rfl⟩ := Int.eq_ofNat_of_zero_le (Int.not_lt.mp negative)
    exact number_reads amount (by omega) stops

-- What the reader finds in a text it finds as well where the text goes on, if no token goes on
-- into what follows.
def Extends {α : Type} (reader : Reader α) : Prop :=
  ∀ text found left rest, Stops rest → reader text = .ok (found, left) →
    reader (text ++ rest) = .ok (found, left ++ rest)

theorem digits_extend (text rest : List Char) (stops : Stops rest) :
    Reader.digits (text ++ rest) = ((Reader.digits text).1, (Reader.digits text).2 ++ rest) := by
  have ended : ∀ c others, text.dropWhile Char.isDigit ++ rest = c :: others →
      c.isDigit = false := by
    intro c others same
    cases left : text.dropWhile Char.isDigit with
    | nil =>
        rw [left] at same
        exact stops_digits stops c others same
    | cons first more =>
        rw [left] at same
        have stopped := List.head?_dropWhile_not Char.isDigit text
        rw [left] at stopped
        rw [← (List.cons.inj same).1]
        simpa using stopped
  have cut := digits_cut (text.takeWhile Char.isDigit) _ (fun c => List.mem_takeWhile_imp) ended
  rwa [← List.append_assoc, List.takeWhile_append_dropWhile] at cut

theorem some_digits_extend : Extends someDigits := by
  intro text found left rest stops read
  unfold someDigits at read ⊢
  rw [digits_extend text rest stops]
  rcases split : Reader.digits text with ⟨values, after⟩
  rw [split] at read
  cases values with
  | nil => cases after with
    | nil => cases read
    | cons c others => cases read
  | cons value others =>
      cases read
      rfl

theorem whole_digits_extend : Extends wholeDigits := by
  intro text found left rest stops read
  unfold wholeDigits at read ⊢
  split at read
  · cases read
  · rename_i plain
    rw [some_digits_extend text found left rest stops read]
    split
    · rename_i same
      cases same
      exact absurd read (plain _ _ _)
    · rfl

theorem fraction_digits_extend : Extends fractionDigits? := by
  intro text found left rest stops read
  cases text with
  | nil =>
      cases read
      exact stops_point stops
  | cons c others =>
      unfold fractionDigits? at read ⊢
      by_cases point : c = '.'
      · subst point
        obtain ⟨⟨places, between⟩, digits, after⟩ := (bind_ok _ _ _).mp read
        cases after
        exact (bind_ok _ _ _).mpr ⟨_, some_digits_extend _ _ _ rest stops digits, rfl⟩
      · split at read
        · rename_i same
          exact absurd (List.cons.inj same).1 point
        · cases read
          split
          · rename_i same
            exact absurd (List.cons.inj same).1 point
          · rfl

def exponentSign (text : List Char) : Bool × List Char :=
  match text with
  | '+' :: rest => (false, rest)
  | '-' :: rest => (true, rest)
  | _ => (false, text)

theorem sign_extends (text rest : List Char) (some : text ≠ []) :
    exponentSign (text ++ rest) = ((exponentSign text).1, (exponentSign text).2 ++ rest) := by
  cases text with
  | nil => exact absurd rfl some
  | cons c others =>
      by_cases plus : c = '+'
      · subst plus
        rfl
      · by_cases minus : c = '-'
        · subst minus
          rfl
        · have plain (others : List Char) : exponentSign (c :: others) = (false, c :: others) := by
            unfold exponentSign
            split
            · rename_i same
              exact absurd (List.cons.inj same).1 plus
            · rename_i same
              exact absurd (List.cons.inj same).1 minus
            · rfl
          rw [List.cons_append, plain, plain]
          rfl

theorem exponent_marked (c : Char) (rest : List Char) (mark : c = 'e' ∨ c = 'E') :
    exponent? (c :: rest) = (someDigits (exponentSign rest).2).bind fun read =>
      let power : Int := read.1.foldl (fun value (digit : Nat) => value * 10 + digit) 0
      .ok (some (if (exponentSign rest).1 then -power else power), read.2) := by
  unfold exponent?
  dsimp only
  rw [if_pos mark]
  rfl

theorem exponent_extend : Extends exponent? := by
  intro text found left rest stops read
  cases text with
  | nil =>
      cases read
      exact stops_exponent stops
  | cons c others =>
      rw [List.cons_append]
      by_cases mark : c = 'e' ∨ c = 'E'
      · rw [exponent_marked c others mark] at read
        obtain ⟨⟨places, between⟩, digits, after⟩ := (bind_ok _ _ _).mp read
        cases after
        have written : others ≠ [] := by
          rintro rfl
          cases digits
        rw [exponent_marked c _ mark, sign_extends others rest written]
        exact (bind_ok _ _ _).mpr ⟨_, some_digits_extend _ _ _ rest stops digits, rfl⟩
      · have plain (others : List Char) : exponent? (c :: others) = .ok (none, c :: others) :=
          if_neg mark
        rw [plain] at read ⊢
        cases read
        rfl

theorem unsigned_extend (negative : Bool) : Extends (unsigned negative) := by
  intro text found left rest stops read
  obtain ⟨⟨whole, text₁⟩, digits, read⟩ := (bind_ok _ _ _).mp read
  obtain ⟨⟨fraction, text₂⟩, point, read⟩ := (bind_ok _ _ _).mp read
  obtain ⟨⟨power, text₃⟩, exponent, read⟩ := (bind_ok _ _ _).mp read
  refine (bind_ok _ _ _).mpr ⟨_, whole_digits_extend _ _ _ rest stops digits,
    (bind_ok _ _ _).mpr ⟨_, fraction_digits_extend _ _ _ rest stops point,
      (bind_ok _ _ _).mpr ⟨_, exponent_extend _ _ _ rest stops exponent, ?_⟩⟩⟩
  dsimp only at read ⊢
  split at read
  · cases read
    rfl
  · cases read

theorem number_extend (written found : Number)
    (read : number written.text = .ok (found, [])) (stops : Stops rest) :
    number (written.text ++ rest) = .ok (found, rest) := by
  obtain ⟨c, others, text, leading⟩ := written.text_leading
  rw [text] at read ⊢
  rcases leading with digit | rfl
  · rw [number_positive _ ⟨c, others, rfl, digit⟩] at read
    rw [List.cons_append, number_positive _ ⟨c, others ++ rest, rfl, digit⟩]
    exact unsigned_extend false _ _ _ rest stops read
  · exact unsigned_extend true others found [] rest stops read

theorem digits_amount (negative : Bool) (amount : Nat) (value : Int)
    (found : numberOf? negative ((Nat.toDigits 10 amount).map digitValue) none none =
      some (.integer value)) : value = if negative then -(amount : Int) else amount := by
  unfold numberOf? at found
  rcases start : accumulate 0 ((Nat.toDigits 10 amount).map digitValue) with ⟨sum, left⟩
  rw [start] at found
  dsimp only at found
  split at found
  · rename_i fits
    have all : (accumulate 0 ((Nat.toDigits 10 amount).map digitValue)).2 = [] := by
      rw [start]
      exact List.isEmpty_iff.mp fits.1
    have whole := accumulate_whole _ 0 all
    rw [fold_digits, Nat.ofDigitChars_ten_toDigits, start] at whole
    rw [← whole]
    exact (Number.integer.inj (Option.some.inj found)).symm
  · obtain ⟨_, _, same⟩ := Option.map_eq_some_iff.mp found
    cases same

theorem number_exact (written : Number) (after : List Char) (value : Int) (stops : Stops rest)
    (read : number (written.text ++ rest) = .ok (.integer value, after)) :
    written = .integer value ∧ after = rest := by
  cases written with
  | fraction fraction => exact absurd read (fraction_not_integer fraction rest after value)
  | integer written =>
      have amount (negative : Bool) (same : unsigned negative
          (Nat.toDigits 10 written.natAbs ++ rest) = .ok (.integer value, after)) :
          value = (if negative then -(written.natAbs : Int) else written.natAbs) ∧
            after = rest := by
        obtain ⟨whole, digits, _, found⟩ := integer_unsigned negative _ after value same
        rw [digits_cut _ rest (Decimal.digits_of _) (stops_digits stops)] at digits
        cases digits
        exact ⟨digits_amount negative _ value found, rfl⟩
      rw [Number.text] at read
      split at read
      · obtain ⟨rfl, rfl⟩ := amount true read
        exact ⟨congrArg Number.integer (by rw [if_pos rfl]; omega), rfl⟩
      · rw [List.nil_append, number_positive _
          (Decimal.leading_append _ rest (Number.integer_leading written))] at read
        obtain ⟨rfl, rfl⟩ := amount false read
        exact ⟨congrArg Number.integer (by rw [if_neg Bool.false_ne_true]; omega), rfl⟩

end RequestLayer.Json.Reader
