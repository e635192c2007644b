import Mathlib.Tactic.IntervalCases
import RequestLayer.Json.Printer
import RequestLayer.Json.Reader
import RequestLayer.Proofs.Decimal.Reading

set_option autoImplicit false

namespace RequestLayer

namespace Number

def Written (c : Char) : Prop := c.isDigit = true ∨ c ∈ ['-', '+', '.', 'e']

instance (c : Char) : Decidable (Written c) := inferInstanceAs (Decidable (_ ∨ _))

theorem digits_written (text : List Char) (digits : Decimal.Digits text) :
    ∀ c ∈ text, Written c := fun c member => .inl (digits c member)

theorem point_written (places : List Char) (digits : Decimal.Digits places) :
    ∀ c ∈ '.' :: places, Written c :=
  List.forall_mem_cons.mpr ⟨by decide, digits_written places digits⟩

theorem pointed_written (places : List Char) (digits : Decimal.Digits places) :
    ∀ c ∈ Decimal.pointed places, Written c := by
  unfold Decimal.pointed
  split
  · simp
  · exact point_written places digits

theorem signed_written (power : Int) : ∀ c ∈ Decimal.signed power, Written c := by
  have digits := digits_written _ (Decimal.digits_of power.natAbs)
  unfold Decimal.signed
  split
  · exact List.forall_mem_cons.mpr ⟨by decide, digits⟩
  · exact List.forall_mem_cons.mpr ⟨by decide, digits⟩

theorem minus_written (negative : Prop) [Decidable negative] :
    ∀ c ∈ if negative then ['-'] else [], Written c := by
  split
  · exact List.forall_mem_cons.mpr ⟨by decide, by simp⟩
  · simp

theorem numeral_written (text : List Char) (value : ℚ) (numeral : Decimal.Numeral text value) :
    ∀ c ∈ text, Written c := by
  cases numeral with
  | point whole places some digits placesDigits =>
      exact List.forall_mem_append.mpr
        ⟨digits_written whole digits, point_written places placesDigits⟩
  | exponent whole places power some digits placesDigits =>
      have mantissa : ∀ c ∈ whole ++ Decimal.pointed places, Written c :=
        List.forall_mem_append.mpr
          ⟨digits_written whole digits, pointed_written places placesDigits⟩
      have mark : ∀ c ∈ 'e' :: Decimal.signed power, Written c :=
        List.forall_mem_cons.mpr ⟨by decide, signed_written power⟩
      exact List.forall_mem_append.mpr ⟨mantissa, mark⟩

theorem text_written (number : Number) : ∀ c ∈ number.text, Written c := by
  cases number with
  | integer value =>
      exact List.forall_mem_append.mpr
        ⟨minus_written _, digits_written _ (Decimal.digits_of _)⟩
  | fraction value =>
      rw [text, Binary64.text_unsigned]
      exact List.forall_mem_append.mpr
        ⟨minus_written _, numeral_written _ _ (Decimal.text_numeral _)⟩

theorem sign_leading (negative : Prop) [Decidable negative] (digits : List Char)
    (leading : Decimal.Leading digits) :
    ∃ c rest, (if negative then ['-'] else []) ++ digits = c :: rest ∧
      (c.isDigit = true ∨ c = '-') := by
  split
  · exact ⟨'-', digits, rfl, .inr rfl⟩
  · obtain ⟨c, rest, same, digit⟩ := leading
    exact ⟨c, rest, same, .inl digit⟩

theorem integer_leading (value : Int) : Decimal.Leading (Nat.toDigits 10 value.natAbs) :=
  Decimal.digits_leading _ Nat.toDigits_ne_nil (Decimal.digits_of _)

theorem fraction_leading (magnitude : Nat) :
    Decimal.Leading (Binary64.unsigned magnitude).text :=
  Decimal.numeral_leading _ _ (Decimal.text_numeral _)

theorem text_leading (number : Number) :
    ∃ c rest, number.text = c :: rest ∧ (c.isDigit = true ∨ c = '-') := by
  cases number with
  | integer value => exact sign_leading _ _ (integer_leading value)
  | fraction value =>
      rw [text, Binary64.text_unsigned]
      exact sign_leading _ _ (fraction_leading value.magnitude)

theorem integer_unmarked (value : Int) (mark : Char) (marks : mark ∈ ['.', 'e']) :
    mark ∉ (integer value).text := by
  have other : mark.isDigit = false ∧ mark ≠ '-' := by
    simp only [List.mem_cons, List.not_mem_nil, or_false] at marks
    rcases marks with rfl | rfl <;> decide
  intro member
  rcases List.mem_append.mp member with member | member
  · split at member
    · exact other.2 (List.mem_singleton.mp member)
    · cases member
  · have digit := Decimal.digits_of _ mark member
    rw [other.1] at digit
    cases digit

theorem fraction_marked (value : Binary64) :
    '.' ∈ (fraction value).text ∨ 'e' ∈ (fraction value).text := by
  rw [text, Binary64.text_unsigned]
  rcases Decimal.numeral_marked _ _ (Decimal.text_numeral (Binary64.unsigned value.magnitude))
    with mark | mark
  · exact .inl (List.mem_append_right _ mark)
  · exact .inr (List.mem_append_right _ mark)

theorem integer_text_injective (one other : Int)
    (same : (integer one).text = (integer other).text) : one = other := by
  obtain ⟨sign, digits⟩ := Decimal.sign_injective (one < 0) (other < 0) _ _
    (integer_leading one) (integer_leading other) same
  have amounts := congrArg Decimal.number digits
  rw [Decimal.number_of, Decimal.number_of] at amounts
  omega

theorem integer_ne_fraction (one : Int) (other : Binary64) :
    (integer one).text ≠ (fraction other).text := by
  intro same
  rcases fraction_marked other with mark | mark
  · exact integer_unmarked one '.' (by decide) (same ▸ mark)
  · exact integer_unmarked one 'e' (by decide) (same ▸ mark)

theorem number_text_injective (one other : Number) (same : one.text = other.text) :
    one = other := by
  cases one with
  | integer value =>
      cases other with
      | integer otherValue => rw [integer_text_injective value otherValue same]
      | fraction otherValue => exact absurd same (integer_ne_fraction value otherValue)
  | fraction value =>
      cases other with
      | integer otherValue => exact absurd same.symm (integer_ne_fraction otherValue value)
      | fraction otherValue => rw [Binary64.fraction_text_injective value otherValue same]

def Ended (rest : List Char) : Prop := ∀ c others, rest = c :: others → ¬ Written c

theorem number_decodes (one other : Number) (rest otherRest : List Char) (ended : Ended rest)
    (otherEnded : Ended otherRest) (same : one.text ++ rest = other.text ++ otherRest) :
    one = other ∧ rest = otherRest := by
  have cut (number : Number) (rest : List Char) (ended : Ended rest) :
      (number.text ++ rest).takeWhile (fun c => decide (Written c)) = number.text := by
    have all : ∀ c ∈ number.text, decide (Written c) = true :=
      fun c member => decide_eq_true (text_written number c member)
    rw [List.takeWhile_append_of_pos all]
    cases rest with
    | nil => rw [List.takeWhile_nil, List.append_nil]
    | cons c others =>
        have stop : decide (Written c) = false := decide_eq_false (ended c others rfl)
        rw [List.takeWhile_cons_of_neg (by rw [stop]; decide), List.append_nil]
  have texts : one.text = other.text := by
    rw [← cut one rest ended, same, cut other otherRest otherEnded]
  have numbers := number_text_injective one other texts
  subst numbers
  exact ⟨rfl, List.append_cancel_left same⟩

end Number

namespace Json

open Reader

theorem control_escaped (code : Nat) (control : code < 0x20) :
    ∃ tail, escaped (Char.ofNat code) = '\\' :: tail ∧
      ∀ rest, escape (tail ++ rest) = .ok (Char.ofNat code, rest) := by
  interval_cases code
  all_goals exact ⟨_, rfl, fun rest => rfl⟩

theorem bind_eq_map (reader : Except Reader.Fault (List Char × List Char)) (c : Char) :
    (do
      let (others, rest) ← reader
      return (c :: others, rest)) = reader.map fun read => (c :: read.1, read.2) := by
  cases reader with
  | error fault => rfl
  | ok read => rfl

theorem escape_reads_back (c : Char) (text rest : List Char) (read : escape text = .ok (c, rest)) :
    stringRest ('\\' :: text) = (stringRest rest).map fun read => (c :: read.1, read.2) := by
  rw [stringRest]
  split
  · rename_i fault failed
    rw [read] at failed
    cases failed
  · rename_i found others success
    rw [read] at success
    cases success
    exact bind_eq_map _ c

theorem plain_reads_back (c : Char) (rest : List Char) (quote : c ≠ '"') (backslash : c ≠ '\\')
    (plain : 0x20 ≤ c.toNat) :
    stringRest (c :: rest) = (stringRest rest).map fun read => (c :: read.1, read.2) := by
  rw [stringRest, if_neg (Nat.not_lt.mpr plain)]
  · exact bind_eq_map _ c
  · exact quote
  · exact backslash

theorem escaped_reads_back (c : Char) (rest : List Char) :
    stringRest (escaped c ++ rest) = (stringRest rest).map fun read => (c :: read.1, read.2) := by
  by_cases control : c.toNat < 0x20
  · obtain ⟨tail, same, reads⟩ := control_escaped c.toNat control
    rw [Char.ofNat_toNat] at same reads
    rw [same]
    exact escape_reads_back c _ rest (reads rest)
  · by_cases quote : c = '"'
    · subst quote
      exact escape_reads_back '"' _ rest rfl
    · by_cases backslash : c = '\\'
      · subst backslash
        exact escape_reads_back '\\' _ rest rfl
      · have plain : 0x20 ≤ c.toNat := Nat.not_lt.mp control
        have same : escaped c = [c] := by
          rw [escaped, if_neg quote, if_neg backslash, if_pos plain]
        rw [same]
        exact plain_reads_back c rest quote backslash plain

theorem string_reads_back (chars rest : List Char) :
    stringRest (chars.flatMap escaped ++ '"' :: rest) = .ok (chars, rest) := by
  induction chars with
  | nil => rw [List.flatMap_nil, List.nil_append, stringRest]
  | cons c others ih =>
      rw [List.flatMap_cons, List.append_assoc, escaped_reads_back, ih]
      rfl

theorem string_text_shape (value : String) (rest : List Char) :
    stringText value ++ rest = '"' :: (value.toList.flatMap escaped ++ '"' :: rest) := by
  simp [stringText]

theorem string_decodes (one other : String) (rest otherRest : List Char)
    (same : stringText one ++ rest = stringText other ++ otherRest) :
    one = other ∧ rest = otherRest := by
  rw [string_text_shape, string_text_shape] at same
  have reads := string_reads_back one.toList rest
  rw [(List.cons.inj same).2, string_reads_back] at reads
  have pairs := Prod.mk.inj (Except.ok.inj reads)
  exact ⟨String.toList_injective pairs.1.symm, pairs.2.symm⟩

-- What the first character of a text tells about its value.
def opening (c : Char) : Nat :=
  if c.isDigit = true ∨ c = '-' then 0
  else if c = 'n' then 1
  else if c = 't' ∨ c = 'f' then 2
  else if c = '"' then 3
  else if c = '[' then 4
  else if c = '\x7b' then 5
  else 6

def kind : Json → Nat
  | .number _ => 0
  | .null => 1
  | .bool _ => 2
  | .string _ => 3
  | .array _ => 4
  | .object _ => 5

theorem text_opens (value : Json) :
    ∃ c others, value.text = c :: others ∧ opening c = value.kind := by
  cases value with
  | null => exact ⟨_, _, rfl, rfl⟩
  | bool value =>
      cases value with
      | false => exact ⟨_, _, rfl, rfl⟩
      | true => exact ⟨_, _, rfl, rfl⟩
  | number value =>
      obtain ⟨c, others, same, leading⟩ := value.text_leading
      exact ⟨c, others, same, if_pos leading⟩
  | string value => exact ⟨_, _, rfl, rfl⟩
  | array items =>
      cases items with
      | nil => exact ⟨_, _, rfl, rfl⟩
      | cons item others => exact ⟨_, _, rfl, rfl⟩
  | object fields =>
      cases fields with
      | nil => exact ⟨_, _, rfl, rfl⟩
      | cons field others => exact ⟨_, _, rfl, rfl⟩

theorem kind_of_text (value other : Json) (rest otherRest : List Char)
    (same : value.text ++ rest = other.text ++ otherRest) : value.kind = other.kind := by
  obtain ⟨c, others, text, opens⟩ := text_opens value
  obtain ⟨otherFirst, otherOthers, otherText, otherOpens⟩ := text_opens other
  rw [text, otherText] at same
  rw [← opens, ← otherOpens, (List.cons.inj same).1]

theorem bracket_not_opening (value : Json) (rest others : List Char) :
    ']' :: others ≠ value.text ++ rest := by
  intro same
  obtain ⟨first, more, text, opens⟩ := text_opens value
  rw [text] at same
  rw [← (List.cons.inj same).1] at opens
  cases value with
  | _ => cases opens

theorem items_ended (items : List Json) (rest : List Char) :
    Number.Ended (itemsText items ++ ']' :: rest) := by
  intro c others same
  cases items with
  | nil =>
      rw [← (List.cons.inj same).1]
      decide
  | cons item more =>
      rw [← (List.cons.inj same).1]
      decide

theorem fields_ended (fields : Fields) (rest : List Char) :
    Number.Ended (fieldsText fields ++ '\x7d' :: rest) := by
  intro c others same
  cases fields with
  | nil =>
      rw [← (List.cons.inj same).1]
      decide
  | cons field more =>
      rw [← (List.cons.inj same).1]
      decide

theorem array_text_shape (item : Json) (others : List Json) (rest : List Char) :
    (Json.array (item :: others)).text ++ rest =
      '[' :: (item.text ++ (itemsText others ++ ']' :: rest)) := by
  simp [text]

theorem object_text_shape (field : String × Json) (others : Fields) (rest : List Char) :
    (Json.object (field :: others)).text ++ rest =
      '\x7b' :: (fieldText field ++ (fieldsText others ++ '\x7d' :: rest)) := by
  simp [text]

theorem items_text_shape (item : Json) (others : List Json) (rest : List Char) :
    itemsText (item :: others) ++ rest = ',' :: (item.text ++ (itemsText others ++ rest)) := by
  simp [itemsText]

theorem fields_text_shape (field : String × Json) (others : Fields) (rest : List Char) :
    fieldsText (field :: others) ++ rest =
      ',' :: (fieldText field ++ (fieldsText others ++ rest)) := by
  simp [fieldsText]

theorem field_text_shape (key : String) (value : Json) (rest : List Char) :
    fieldText (key, value) ++ rest = stringText key ++ (':' :: (value.text ++ rest)) := by
  simp [fieldText]

theorem brace_not_field (field : String × Json) (rest others : List Char) :
    '\x7d' :: others ≠ fieldText field ++ rest := by
  obtain ⟨key, value⟩ := field
  rw [field_text_shape, string_text_shape]
  intro same
  cases (List.cons.inj same).1

theorem bool_decodes (value other : Bool) (rest otherRest : List Char)
    (same : (Json.bool value).text ++ rest = (Json.bool other).text ++ otherRest) :
    value = other ∧ rest = otherRest := by
  cases value with
  | false =>
      cases other with
      | false => exact ⟨rfl, List.append_cancel_left same⟩
      | true => cases (List.cons.inj same).1
  | true =>
      cases other with
      | false => cases (List.cons.inj same).1
      | true => exact ⟨rfl, List.append_cancel_left same⟩

-- By recursion on the first value. Inside brackets every value is followed by a comma or by the
-- closing bracket, which no number goes on into.
mutual

theorem text_decodes (value other : Json) (rest otherRest : List Char) (ended : Number.Ended rest)
    (otherEnded : Number.Ended otherRest) (same : value.text ++ rest = other.text ++ otherRest) :
    value = other ∧ rest = otherRest := by
  have kinds := kind_of_text value other rest otherRest same
  cases value with
  | null =>
      cases other with
      | null => exact ⟨rfl, List.append_cancel_left same⟩
      | _ => cases kinds
  | bool value =>
      cases other with
      | bool otherValue =>
          obtain ⟨values, rests⟩ := bool_decodes value otherValue rest otherRest same
          exact ⟨congrArg Json.bool values, rests⟩
      | _ => cases kinds
  | number value =>
      cases other with
      | number otherValue =>
          obtain ⟨numbers, rests⟩ :=
            Number.number_decodes value otherValue rest otherRest ended otherEnded same
          exact ⟨congrArg Json.number numbers, rests⟩
      | _ => cases kinds
  | string value =>
      cases other with
      | string otherValue =>
          obtain ⟨strings, rests⟩ := string_decodes value otherValue rest otherRest same
          exact ⟨congrArg Json.string strings, rests⟩
      | _ => cases kinds
  | array items =>
      cases other with
      | array otherItems =>
          obtain ⟨lists, rests⟩ := array_decodes items otherItems rest otherRest same
          exact ⟨congrArg Json.array lists, rests⟩
      | _ => cases kinds
  | object fields =>
      cases other with
      | object otherFields =>
          obtain ⟨lists, rests⟩ := object_decodes fields otherFields rest otherRest same
          exact ⟨congrArg Json.object lists, rests⟩
      | _ => cases kinds
termination_by structural value

theorem array_decodes (items others : List Json) (rest otherRest : List Char)
    (same : (Json.array items).text ++ rest = (Json.array others).text ++ otherRest) :
    items = others ∧ rest = otherRest := by
  cases items with
  | nil =>
      cases others with
      | nil => exact ⟨rfl, List.append_cancel_left same⟩
      | cons other otherMore =>
          rw [array_text_shape] at same
          exact absurd (List.cons.inj same).2 (bracket_not_opening other _ rest)
  | cons item more =>
      cases others with
      | nil =>
          rw [array_text_shape] at same
          exact absurd (List.cons.inj same).2.symm (bracket_not_opening item _ otherRest)
      | cons other otherMore =>
          rw [array_text_shape, array_text_shape] at same
          obtain ⟨head, tail⟩ := text_decodes item other _ _ (items_ended more rest)
            (items_ended otherMore otherRest) (List.cons.inj same).2
          obtain ⟨tails, rests⟩ := items_decode more otherMore rest otherRest tail
          subst head tails
          exact ⟨rfl, rests⟩
termination_by structural items

theorem object_decodes (fields others : List (String × Json)) (rest otherRest : List Char)
    (same : (Json.object fields).text ++ rest = (Json.object others).text ++ otherRest) :
    fields = others ∧ rest = otherRest := by
  cases fields with
  | nil =>
      cases others with
      | nil => exact ⟨rfl, List.append_cancel_left same⟩
      | cons other otherMore =>
          rw [object_text_shape] at same
          exact absurd (List.cons.inj same).2 (brace_not_field other _ rest)
  | cons field more =>
      cases others with
      | nil =>
          rw [object_text_shape] at same
          exact absurd (List.cons.inj same).2.symm (brace_not_field field _ otherRest)
      | cons other otherMore =>
          rw [object_text_shape, object_text_shape] at same
          obtain ⟨head, tail⟩ := field_decodes field other _ _ (fields_ended more rest)
            (fields_ended otherMore otherRest) (List.cons.inj same).2
          obtain ⟨tails, rests⟩ := fields_decode more otherMore rest otherRest tail
          subst head tails
          exact ⟨rfl, rests⟩
termination_by structural fields

theorem items_decode (items others : List Json) (rest otherRest : List Char)
    (same : itemsText items ++ ']' :: rest = itemsText others ++ ']' :: otherRest) :
    items = others ∧ rest = otherRest := by
  cases items with
  | nil =>
      cases others with
      | nil => exact ⟨rfl, (List.cons.inj same).2⟩
      | cons other otherMore => cases (List.cons.inj same).1
  | cons item more =>
      cases others with
      | nil => cases (List.cons.inj same).1
      | cons other otherMore =>
          rw [items_text_shape, items_text_shape] at same
          obtain ⟨head, tail⟩ := text_decodes item other _ _ (items_ended more rest)
            (items_ended otherMore otherRest) (List.cons.inj same).2
          obtain ⟨tails, rests⟩ := items_decode more otherMore rest otherRest tail
          subst head tails
          exact ⟨rfl, rests⟩
termination_by structural items

theorem fields_decode (fields others : List (String × Json)) (rest otherRest : List Char)
    (same : fieldsText fields ++ '\x7d' :: rest = fieldsText others ++ '\x7d' :: otherRest) :
    fields = others ∧ rest = otherRest := by
  cases fields with
  | nil =>
      cases others with
      | nil => exact ⟨rfl, (List.cons.inj same).2⟩
      | cons other otherMore => cases (List.cons.inj same).1
  | cons field more =>
      cases others with
      | nil => cases (List.cons.inj same).1
      | cons other otherMore =>
          rw [fields_text_shape, fields_text_shape] at same
          obtain ⟨head, tail⟩ := field_decodes field other _ _ (fields_ended more rest)
            (fields_ended otherMore otherRest) (List.cons.inj same).2
          obtain ⟨tails, rests⟩ := fields_decode more otherMore rest otherRest tail
          subst head tails
          exact ⟨rfl, rests⟩
termination_by structural fields

theorem field_decodes (field other : String × Json) (rest otherRest : List Char)
    (ended : Number.Ended rest) (otherEnded : Number.Ended otherRest)
    (same : fieldText field ++ rest = fieldText other ++ otherRest) :
    field = other ∧ rest = otherRest := by
  obtain ⟨key, value⟩ := field
  obtain ⟨otherKey, otherValue⟩ := other
  rw [field_text_shape, field_text_shape] at same
  obtain ⟨keys, tail⟩ := string_decodes key otherKey _ _ same
  obtain ⟨values, rests⟩ := text_decodes value otherValue rest otherRest ended otherEnded
    (List.cons.inj tail).2
  subst keys values
  exact ⟨rfl, rests⟩
termination_by structural field

end

theorem compact_injective (one other : Json) (same : one.compact = other.compact) :
    one = other := by
  have ended : Number.Ended [] := fun _ _ same => by cases same
  have texts : one.text = other.text := String.ofList_injective same
  exact (text_decodes one other [] [] ended ended (by rw [texts])).1

end Json

end RequestLayer
