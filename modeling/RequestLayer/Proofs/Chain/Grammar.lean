import Mathlib.Data.Nat.Digits.Defs
import RequestLayer.Proofs.Chain.Digits

set_option autoImplicit false

namespace RequestLayer

namespace Quantity

open Hexadecimal

-- An integer, or a marked numeral of at least one digit. The numeral may have a plus sign.
inductive Denotes : Json → Nat → Prop
  | integer (number : Nat) (bounded : number < Nat.pow 2 64) :
      Denotes (.number (.integer number)) number
  | marked (sign digits : List Char) (number : Nat) (signed : sign = [] ∨ sign = ['+'])
      (some : digits ≠ []) (numeral : Numeral digits number) (bounded : number < Nat.pow 2 64) :
      Denotes (.string (String.ofList ('0' :: 'x' :: (sign ++ digits)))) number

theorem unsigned_iff (digits : List Char) (number : Nat) :
    (if digits.isEmpty then none else do
      let number ← number? digits
      if number < Nat.pow 2 64 then some number else none) = some number ↔
      digits ≠ [] ∧ Numeral digits number ∧ number < Nat.pow 2 64 := by
  cases digits with
  | nil => simp
  | cons first rest =>
      rw [← number_iff]
      cases number? (first :: rest) with
      | none => simp
      | some other =>
          by_cases small : other < Nat.pow 2 64
          · simp only [List.isEmpty_cons, Bool.false_eq_true, if_false, Option.bind_eq_bind,
              Option.bind_some, if_pos small]
            grind
          · simp only [List.isEmpty_cons, Bool.false_eq_true, if_false, Option.bind_eq_bind,
              Option.bind_some, if_neg small]
            grind

theorem digits_iff (text : List Char) (number : Nat) :
    ofDigits? text = some number ↔ ∃ sign digits, text = sign ++ digits ∧
      (sign = [] ∨ sign = ['+']) ∧ digits ≠ [] ∧ Numeral digits number ∧
      number < Nat.pow 2 64 := by
  unfold ofDigits?
  split
  · rename_i rest
    constructor
    · intro read
      exact ⟨['+'], rest, rfl, .inr rfl, (unsigned_iff rest number).mp read⟩
    · rintro ⟨sign, digits, same, rfl | rfl, body⟩
      · cases same
        obtain ⟨value, digit⟩ := numeral_digits _ number body.2.1 '+' List.mem_cons_self
        exact absurd digit (plus_no_digit value)
      · cases same
        exact (unsigned_iff digits number).mpr body
  · rename_i unsigned
    constructor
    · intro read
      exact ⟨[], text, rfl, .inl rfl, (unsigned_iff text number).mp read⟩
    · rintro ⟨sign, digits, rfl, rfl | rfl, body⟩
      · exact (unsigned_iff digits number).mpr body
      · exact absurd rfl (unsigned digits)

theorem unmarked_iff (text digits : List Char) :
    unmarked? text = some digits ↔ text = '0' :: 'x' :: digits := by
  unfold unmarked?
  split
  · simp
  · rename_i other
    simp only [reduceCtorEq, false_iff]
    exact other digits

theorem quantity_iff (value : Json) (number : Nat) :
    ofJson? value = some number ↔ Denotes value number := by
  constructor
  · intro read
    cases value with
    | string text =>
        obtain ⟨body, unmarked, given⟩ := Option.bind_eq_some_iff.mp read
        obtain ⟨sign, digits, rfl, signed, some, numeral, bounded⟩ :=
          (digits_iff body number).mp given
        rw [← String.ofList_toList (s := text), (unmarked_iff _ _).mp unmarked]
        exact .marked sign digits number signed some numeral bounded
    | number value =>
        cases value with
        | fraction value => cases read
        | integer value =>
            have bounded := read_bounded _ number read
            have kept : (if 0 ≤ value ∧ value < Nat.pow 2 64 then some value.toNat else none) =
              some number := read
            by_cases small : 0 ≤ value ∧ value < Nat.pow 2 64
            · rw [if_pos small] at kept
              cases kept
              have whole : value = (value.toNat : Int) := (Int.toNat_of_nonneg small.1).symm
              rw [whole]
              exact .integer value.toNat bounded
            · rw [if_neg small] at kept
              cases kept
    | _ => cases read
  · intro denotes
    cases denotes with
    | integer number bounded =>
        have small : 0 ≤ (number : Int) ∧ (number : Int) < Nat.pow 2 64 := by omega
        simp only [ofJson?, Json.word?, if_pos small, Int.toNat_natCast]
    | marked sign digits number signed some numeral bounded =>
        have body := (digits_iff _ number).mpr
          ⟨sign, digits, rfl, signed, some, numeral, bounded⟩
        simp [ofJson?, (unmarked_iff _ _).mpr rfl, body]

theorem digits_numeral (number : Nat) : Numeral (Nat.toDigits 16 number) number :=
  (number_iff _ number).mp (number_of_digits number)

theorem written_lower (number : Nat) (c : Char) (member : c ∈ Nat.toDigits 16 number) :
    c ∈ "0123456789abcdef".toList := by
  induction number using Nat.strongRecOn with
  | ind number ih =>
      by_cases single : number < 16
      · rw [Nat.toDigits_of_lt_base single, List.mem_singleton] at member
        rw [member]
        exact digit_lower number single
      · rw [Nat.toDigits_of_base_le (by decide) (by omega), List.mem_append,
          List.mem_singleton] at member
        rcases member with early | rfl
        · exact ih (number / 16) (by omega) early
        · exact digit_lower (number % 16) (Nat.mod_lt number (by decide))

theorem zero_digit : ∀ value < 16, Nat.digitChar value = '0' → value = 0 := by
  decide

theorem written_leading (number : Nat) (zero : (Nat.toDigits 16 number).head? = some '0') :
    number = 0 := by
  induction number using Nat.strongRecOn with
  | ind number ih =>
      by_cases single : number < 16
      · rw [Nat.toDigits_of_lt_base single] at zero
        exact zero_digit number single (Option.some.inj zero)
      · rw [Nat.toDigits_of_base_le (by decide) (by omega), List.head?_append] at zero
        cases first : (Nat.toDigits 16 (number / 16)).head? with
        | none => exact absurd (List.head?_eq_none_iff.mp first) Nat.toDigits_ne_nil
        | some c =>
            rw [first] at zero
            have none := ih (number / 16) (by omega) (first.trans zero)
            omega

end Quantity

namespace BlockRef

open Hexadecimal

inductive Hashes : List Char → Bytes32 → Prop
  | whole (digits : List Char) (hash : Bytes32) (spelled : Spells digits hash.toList) :
      Hashes digits hash
  | short (digits : List Char) (hash : Bytes32) (spelled : Spells ('0' :: digits) hash.toList) :
      Hashes digits hash

theorem vector_of_list (bytes : List UInt8) (hash : Bytes32) :
    (if exact : bytes.toArray.size = 32 then some (⟨bytes.toArray, exact⟩ : Bytes32) else none) =
      some hash ↔ bytes = hash.toList := by
  constructor
  · intro read
    split at read
    · cases read
      rfl
    · cases read
  · rintro rfl
    have array : hash.toList.toArray = hash.toArray := Array.toArray_toList
    simp [array]

theorem padded_iff (digits : List Char) (hash : Bytes32) :
    Spells (if digits.length % 2 = 1 then '0' :: digits else digits) hash.toList ↔
      Hashes digits hash := by
  constructor
  · intro spelled
    by_cases odd : digits.length % 2 = 1
    · rw [if_pos odd] at spelled
      exact .short digits hash spelled
    · rw [if_neg odd] at spelled
      exact .whole digits hash spelled
  · intro hashes
    cases hashes with
    | whole spelled =>
        have even := spelled_length digits _ spelled
        rw [if_neg (by omega)]
        exact spelled
    | short spelled =>
        have odd := spelled_length _ _ spelled
        rw [List.length_cons] at odd
        rw [if_pos (by omega)]
        exact spelled

theorem hashes_digits (digits : List Char) (hash : Bytes32) (hashes : Hashes digits hash) :
    Digits digits ∧ (digits.length = 63 ∨ digits.length = 64) := by
  have size := hash.length_toList
  cases hashes with
  | whole spelled =>
      have length := spelled_length _ _ spelled
      exact ⟨spelled_digits _ _ spelled, by omega⟩
  | short spelled =>
      have length := spelled_length _ _ spelled
      rw [List.length_cons] at length
      exact ⟨fun c member => spelled_digits _ _ spelled c (List.mem_cons_of_mem '0' member), by omega⟩

theorem digits_hash (digits : List Char) (each : Digits digits)
    (length : digits.length = 63 ∨ digits.length = 64) : ∃ hash, Hashes digits hash := by
  rcases length with short | whole
  · have zero : Digits ('0' :: digits) := by
      intro c member
      rcases List.mem_cons.mp member with rfl | later
      · exact ⟨0, by decide⟩
      · exact each c later
    obtain ⟨bytes, size, spelled⟩ := digits_spell 32 ('0' :: digits) (by simp [short]) zero
    exact ⟨⟨bytes.toArray, size⟩, .short digits _ spelled⟩
  · obtain ⟨bytes, size, spelled⟩ := digits_spell 32 digits whole each
    exact ⟨⟨bytes.toArray, size⟩, .whole digits _ spelled⟩

theorem hash_iff (text : String) (hash : Bytes32) :
    hash? text = some hash ↔ ∃ digits, Hashes digits hash ∧
      (text.toList = digits ∨ text.toList = '0' :: 'x' :: digits) := by
  have read : hash? text = some hash ↔
      Hashes ((unmarked? text.toList).getD text.toList) hash := by
    rw [← padded_iff, ← bytes_iff]
    unfold hash?
    simp only [Option.bind_eq_bind, Option.bind_eq_some_iff, vector_of_list]
    simp
  rw [read]
  cases unmarked : unmarked? text.toList with
  | some digits =>
      have marked := (Quantity.unmarked_iff _ _).mp unmarked
      constructor
      · exact fun hashes => ⟨digits, hashes, .inr marked⟩
      · rintro ⟨other, hashes, rfl | same⟩
        · have each := (hashes_digits _ hash hashes).1
          obtain ⟨value, digit⟩ := each 'x' (by simp [marked])
          exact absurd digit (mark_no_digit value)
        · rw [marked] at same
          cases same
          exact hashes
  | none =>
      constructor
      · exact fun hashes => ⟨text.toList, hashes, .inl rfl⟩
      · rintro ⟨digits, hashes, rfl | marked⟩
        · exact hashes
        · rw [marked] at unmarked
          cases unmarked

-- Names of tags, all digits of a hash, and quantities that are not written as long as a hash.
inductive Denotes : Json → BlockRef → Prop
  | tag (tag : BlockTag) : Denotes (.string tag.name) (.tag tag)
  | hash (digits : List Char) (hash : Bytes32) (spelled : Spells digits hash.toList) :
      Denotes (.string (String.ofList ('0' :: 'x' :: digits))) (.hash hash)
  | number (value : Json) (number : Nat)
      (short : ∀ text, value = .string text → text.utf8ByteSize ≠ 66)
      (quantity : Quantity.Denotes value number) : Denotes value (.number number)

theorem name_unmarked (tag : BlockTag) (rest : List Char) : tag.name.toList ≠ '0' :: rest := by
  cases tag <;> simp [BlockTag.name]

theorem name_short (tag : BlockTag) : tag.name.utf8ByteSize ≠ 66 := by
  cases tag <;> decide

theorem marked_unnamed (rest : List Char) (tag : BlockTag) :
    String.ofList ('0' :: rest) ≠ tag.name := by
  intro same
  have unmarked := name_unmarked tag rest
  rw [← same, String.toList_ofList] at unmarked
  exact unmarked rfl

theorem read_long (text : String) (long : text.utf8ByteSize = 66) :
    ofJson? (.string text) = (hash? text).map .hash := by
  cases named : BlockTag.ofName? text with
  | some tag =>
      rw [(tag_of_name text tag).mp named] at long
      exact absurd long (name_short tag)
  | none =>
      have size : text.utf8ByteSize = hashTextLength := long
      rw [read_unnamed text named, if_pos size]

theorem read_otherwise (value : Json) (unnamed : ∀ tag : BlockTag, value ≠ .string tag.name)
    (short : ∀ text, value = .string text → text.utf8ByteSize ≠ 66) :
    ofJson? value = (Quantity.ofJson? value).map .number := by
  cases value with
  | string text =>
      cases named : BlockTag.ofName? text with
      | some tag => exact absurd (congrArg Json.string ((tag_of_name text tag).mp named)) (unnamed tag)
      | none =>
          have size : text.utf8ByteSize ≠ hashTextLength := short text rfl
          rw [read_unnamed text named, if_neg size]
  | _ => rfl

-- As long as a hash with its mark, a text that writes a hash has the mark and all digits.
theorem long_hash_iff (text : String) (hash : Bytes32) (long : text.utf8ByteSize = 66) :
    hash? text = some hash ↔
      ∃ digits, text = String.ofList ('0' :: 'x' :: digits) ∧ Spells digits hash.toList := by
  rw [hash_iff]
  constructor
  · rintro ⟨digits, hashes, bare | marked⟩
    · have size := digits_size digits (hashes_digits digits hash hashes).1
      rw [← bare, String.ofList_toList, long, bare] at size
      have length := (hashes_digits digits hash hashes).2
      omega
    · have same : text = String.ofList ('0' :: 'x' :: digits) := by
        rw [← marked, String.ofList_toList]
      have size := marked_size digits (hashes_digits digits hash hashes).1
      rw [← same, long] at size
      cases hashes with
      | whole spelled => exact ⟨digits, same, spelled⟩
      | short spelled =>
          have even := spelled_length _ _ spelled
          rw [List.length_cons] at even
          omega
  · rintro ⟨digits, rfl, spelled⟩
    exact ⟨digits, .whole digits hash spelled, .inr String.toList_ofList⟩

theorem spelled_size (digits : List Char) (hash : Bytes32) (spelled : Spells digits hash.toList) :
    (String.ofList ('0' :: 'x' :: digits)).utf8ByteSize = 66 := by
  have length := spelled_length digits _ spelled
  have size := hash.length_toList
  rw [marked_size digits (spelled_digits digits _ spelled)]
  omega

theorem quantity_unnamed (value : Json) (number : Nat) (quantity : Quantity.Denotes value number)
    (tag : BlockTag) : value ≠ .string tag.name := by
  rintro rfl
  generalize same : Json.string tag.name = value at quantity
  cases quantity with
  | integer => cases same
  | marked sign digits =>
      have text := Json.string.inj same
      exact marked_unnamed _ tag text.symm

-- The cases are those of the reader: a tag, a text as long as a hash, and all others.
theorem reference_iff (value : Json) (reference : BlockRef) :
    ofJson? value = some reference ↔ Denotes value reference := by
  constructor
  · intro read
    by_cases named : ∃ tag : BlockTag, value = .string tag.name
    · obtain ⟨tag, rfl⟩ := named
      rw [(read_tag _ tag).mpr rfl] at read
      cases read
      exact .tag tag
    by_cases long : ∃ text, value = .string text ∧ text.utf8ByteSize = 66
    · obtain ⟨text, rfl, size⟩ := long
      rw [read_long text size, Option.map_eq_some_iff] at read
      obtain ⟨hash, found, rfl⟩ := read
      obtain ⟨digits, rfl, spelled⟩ := (long_hash_iff text hash size).mp found
      exact .hash digits hash spelled
    · have short (text : String) (same : value = .string text) : text.utf8ByteSize ≠ 66 :=
        fun size => long ⟨text, same, size⟩
      rw [read_otherwise value (not_exists.mp named) short, Option.map_eq_some_iff] at read
      obtain ⟨number, found, rfl⟩ := read
      exact .number value number short ((Quantity.quantity_iff value number).mp found)
  · intro denotes
    cases denotes with
    | tag tag => exact (read_tag _ tag).mpr rfl
    | hash digits hash spelled =>
        have size := spelled_size digits hash spelled
        rw [read_long _ size, (long_hash_iff _ hash size).mpr ⟨digits, rfl, spelled⟩]
        rfl
    | number value number short quantity =>
        rw [read_otherwise value (quantity_unnamed value number quantity) short,
          (Quantity.quantity_iff value number).mpr quantity]
        rfl

theorem denotes_once (value : Json) (one other : BlockRef) (first : Denotes value one)
    (second : Denotes value other) : one = other := by
  have read := (reference_iff value one).mpr first
  rw [(reference_iff value other).mpr second] at read
  exact (Option.some.inj read).symm

theorem quantity_short (number : Nat) (bounded : number < Nat.pow 2 64) :
    (Quantity.text number).utf8ByteSize ≠ 66 := by
  have size := marked_size _ (numeral_digits _ number (Quantity.digits_numeral number))
  have few := Nat.toDigits_length 16 number 16 (by decide) (by
    change number < Nat.pow 2 64
    exact bounded)
  unfold Quantity.text
  omega

theorem hash_written (hash : Bytes32) : ∃ digits,
    (BlockRef.hash hash).toJson = .string (String.ofList ('0' :: 'x' :: digits)) ∧
      Spells digits hash.toList ∧ ∀ c ∈ digits, c ∈ "0123456789abcdef".toList :=
  ⟨ofBytes hash.toList, rfl, (bytes_iff _ _).mp (bytes_of_digits hash.toList),
    digits_lower hash.toList⟩

theorem reference_read_back (reference : BlockRef)
    (bounded : ∀ number, reference = .number number → number < Nat.pow 2 64) :
    ofJson? reference.toJson = some reference := by
  rw [reference_iff]
  cases reference with
  | tag tag => exact .tag tag
  | hash hash =>
      obtain ⟨digits, written, spelled, _⟩ := hash_written hash
      rw [written]
      exact .hash digits hash spelled
  | number number =>
      have small := bounded number rfl
      have quantity := (Quantity.quantity_iff _ number).mp (Quantity.read_written number small)
      refine .number _ number ?_ quantity
      rintro text ⟨rfl⟩
      exact quantity_short number small

end BlockRef

theorem references_exact :
    (∀ value number, Quantity.ofJson? value = some number ↔ Quantity.Denotes value number) ∧
    (∀ number, ∃ digits, Quantity.toJson number = .string (String.ofList ('0' :: 'x' :: digits)) ∧
      digits ≠ [] ∧ Hexadecimal.Numeral digits number ∧
      (∀ c ∈ digits, c ∈ "0123456789abcdef".toList) ∧
      (digits.head? = some '0' → digits = ['0'])) ∧
    (∀ number, number < Nat.pow 2 64 →
      Quantity.ofJson? (Quantity.toJson number) = some number) ∧
    (∀ text hash, BlockRef.hash? text = some hash ↔ ∃ digits, BlockRef.Hashes digits hash ∧
      (text.toList = digits ∨ text.toList = '0' :: 'x' :: digits)) ∧
    (∀ text, (BlockRef.hash? text).isSome ↔ ∃ digits, Hexadecimal.Digits digits ∧
      (digits.length = 63 ∨ digits.length = 64) ∧
      (text.toList = digits ∨ text.toList = '0' :: 'x' :: digits)) ∧
    (∀ value tag, BlockRef.ofJson? value = some (.tag tag) ↔ value = .string tag.name) ∧
    (∀ text, text.utf8ByteSize = 66 → ∀ reference,
      BlockRef.ofJson? (.string text) = some reference ↔ ∃ hash digits, reference = .hash hash ∧
        text = String.ofList ('0' :: 'x' :: digits) ∧ Hexadecimal.Spells digits hash.toList) ∧
    (∀ text, text.utf8ByteSize = 66 → ((BlockRef.ofJson? (.string text)).isSome ↔
      ∃ digits, text = String.ofList ('0' :: 'x' :: digits) ∧ digits.length = 64 ∧
        Hexadecimal.Digits digits)) ∧
    (∀ value, (∀ tag : BlockTag, value ≠ .string tag.name) →
      (∀ text, value = .string text → text.utf8ByteSize ≠ 66) →
      BlockRef.ofJson? value = (Quantity.ofJson? value).map .number) ∧
    (∀ reference, (∀ number, reference = .number number → number < Nat.pow 2 64) →
      BlockRef.ofJson? reference.toJson = some reference) ∧
    (∀ hash, ∃ digits, (BlockRef.hash hash).toJson = .string (String.ofList ('0' :: 'x' :: digits)) ∧
      Hexadecimal.Spells digits hash.toList ∧ ∀ c ∈ digits, c ∈ "0123456789abcdef".toList) ∧
    (∀ value reference, BlockRef.ofJson? value = some reference ↔
      BlockRef.Denotes value reference) ∧
    ∀ value one other, BlockRef.Denotes value one → BlockRef.Denotes value other → one = other := by
  refine ⟨Quantity.quantity_iff, ?_, Quantity.read_written, BlockRef.hash_iff, ?_, read_tag,
    ?_, ?_, BlockRef.read_otherwise, BlockRef.reference_read_back, BlockRef.hash_written,
    BlockRef.reference_iff, BlockRef.denotes_once⟩
  · intro number
    refine ⟨Nat.toDigits 16 number, rfl, Nat.toDigits_ne_nil, Quantity.digits_numeral number,
      Quantity.written_lower number, fun zero => ?_⟩
    rw [Quantity.written_leading number zero]
    rfl
  · intro text
    rw [Option.isSome_iff_exists]
    constructor
    · rintro ⟨hash, found⟩
      obtain ⟨digits, hashes, written⟩ := (BlockRef.hash_iff text hash).mp found
      obtain ⟨each, length⟩ := BlockRef.hashes_digits digits hash hashes
      exact ⟨digits, each, length, written⟩
    · rintro ⟨digits, each, length, written⟩
      obtain ⟨hash, hashes⟩ := BlockRef.digits_hash digits each length
      exact ⟨hash, (BlockRef.hash_iff text hash).mpr ⟨digits, hashes, written⟩⟩
  · intro text long reference
    rw [BlockRef.read_long text long, Option.map_eq_some_iff]
    constructor
    · rintro ⟨hash, found, rfl⟩
      obtain ⟨digits, written, spelled⟩ := (BlockRef.long_hash_iff text hash long).mp found
      exact ⟨hash, digits, rfl, written, spelled⟩
    · rintro ⟨hash, digits, rfl, written, spelled⟩
      exact ⟨hash, (BlockRef.long_hash_iff text hash long).mpr ⟨digits, written, spelled⟩, rfl⟩
  · intro text long
    rw [BlockRef.read_long text long, Option.isSome_map, Option.isSome_iff_exists]
    constructor
    · rintro ⟨hash, found⟩
      obtain ⟨digits, written, spelled⟩ := (BlockRef.long_hash_iff text hash long).mp found
      have length := Hexadecimal.spelled_length digits _ spelled
      rw [hash.length_toList] at length
      exact ⟨digits, written, length, Hexadecimal.spelled_digits digits _ spelled⟩
    · rintro ⟨digits, written, length, each⟩
      obtain ⟨bytes, size, spelled⟩ := Hexadecimal.digits_spell 32 digits length each
      exact ⟨⟨bytes.toArray, size⟩,
        (BlockRef.long_hash_iff text _ long).mpr ⟨digits, written, spelled⟩⟩

end RequestLayer
