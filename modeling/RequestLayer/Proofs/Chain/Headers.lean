import RequestLayer.Chain.Header
import RequestLayer.Proofs.Chain.Grammar
import RequestLayer.Proofs.Outcomes

set_option autoImplicit false

namespace RequestLayer

namespace Header

inductive Optional : Option Json → Option Nat → Prop
  | absent : Optional none none
  | null : Optional (some .null) none
  | given (value : Json) (number : Nat) (quantity : Quantity.Denotes value number) :
      Optional (some value) (some number)

structure Holds (number timestamp gasLimit baseFee : Option Json) (header : Header) : Prop where
  number : ∃ value, number = some value ∧ Quantity.Denotes value header.number
  timestamp : Optional timestamp header.timestamp
  gasLimit : Optional gasLimit header.gasLimit
  baseFee : Optional baseFee header.baseFee

inductive Denotes : Json → Header → Prop
  | object (fields : Fields) (header : Header)
      (holds : Holds (fields.lookup "number") (fields.lookup "timestamp") (fields.lookup "gasLimit")
        (fields.lookup "baseFeePerGas") header) :
      Denotes (.object fields) header
  | array (items : List Json) (header : Header) (few : items.length ≤ 4)
      (holds : Holds items[0]? items[1]? items[2]? items[3]? header) :
      Denotes (.array items) header

theorem quantity_ok (value : Json) (number : Nat) :
    quantity value = .ok number ↔ Quantity.Denotes value number := by
  rw [← Quantity.quantity_iff]
  unfold quantity
  cases Quantity.ofJson? value with
  | none => exact ⟨nofun, nofun⟩
  | some other =>
      constructor
      · rintro ⟨⟩
        rfl
      · rintro ⟨⟩
        rfl

theorem null_no_quantity (number : Nat) : ¬ Quantity.Denotes .null number := nofun

theorem optional_iff (value : Option Json) (number : Option Nat) :
    optionalQuantity value = .ok number ↔ Optional value number := by
  have filled (value : Json) (there : value ≠ .null) :
      some <$> quantity value = .ok number ↔ Optional (some value) number := by
    constructor
    · intro read
      cases given : quantity value with
      | error mismatch =>
          rw [given] at read
          cases read
      | ok other =>
          rw [given] at read
          cases read
          exact .given value other ((quantity_ok value other).mp given)
    · intro optional
      cases optional with
      | null => exact (there rfl).elim
      | given _ number quantity =>
          rw [(quantity_ok value number).mpr quantity]
          rfl
  unfold optionalQuantity
  split
  · exact ⟨fun | rfl => .absent, fun | .absent => rfl⟩
  · constructor
    · rintro ⟨⟩
      exact .null
    · intro optional
      cases optional with
      | null => rfl
      | given _ number quantity => exact (null_no_quantity number quantity).elim
  · rename_i value there
    exact filled value there

theorem required_iff (value : Option Json) (number : Nat) :
    value.mapM quantity = .ok (some number) ↔
      ∃ given, value = some given ∧ Quantity.Denotes given number := by
  cases value with
  | none => exact ⟨nofun, nofun⟩
  | some value =>
      change some <$> quantity value = _ ↔ _
      constructor
      · intro read
        cases given : quantity value with
        | error mismatch =>
            rw [given] at read
            cases read
        | ok other =>
            rw [given] at read
            cases read
            exact ⟨value, rfl, (quantity_ok value number).mp given⟩
      · rintro ⟨_, ⟨⟩, quantity⟩
        rw [(quantity_ok value number).mpr quantity]
        rfl

theorem fields_iff (fields : Fields) (header : Header) :
    ofFields fields = .ok header ↔ Holds (fields.lookup "number") (fields.lookup "timestamp")
      (fields.lookup "gasLimit") (fields.lookup "baseFeePerGas") header := by
  constructor
  · intro read
    obtain ⟨baseFee, fee, read⟩ := (bind_ok _ _ header).mp read
    obtain ⟨gasLimit, limit, read⟩ := (bind_ok _ _ header).mp read
    obtain ⟨number, required, read⟩ := (bind_ok _ _ header).mp read
    obtain ⟨timestamp, time, read⟩ := (bind_ok _ _ header).mp read
    cases number with
    | none => cases read
    | some number =>
        cases read
        exact ⟨(required_iff _ number).mp required, (optional_iff _ _).mp time,
          (optional_iff _ _).mp limit, (optional_iff _ _).mp fee⟩
  · intro holds
    unfold ofFields
    rw [(optional_iff _ _).mpr holds.baseFee, (optional_iff _ _).mpr holds.gasLimit,
      (required_iff _ _).mpr holds.number, (optional_iff _ _).mpr holds.timestamp]
    rfl

theorem items_iff (items : List Json) (header : Header) :
    ofItems items = .ok header ↔
      items.length ≤ 4 ∧ Holds items[0]? items[1]? items[2]? items[3]? header := by
  unfold ofItems
  cases first : items[0]? with
  | none => exact ⟨nofun, fun ⟨_, holds⟩ => nomatch holds.number⟩
  | some value =>
      constructor
      · intro read
        obtain ⟨number, required, read⟩ := (bind_ok _ _ header).mp read
        obtain ⟨timestamp, time, read⟩ := (bind_ok _ _ header).mp read
        obtain ⟨gasLimit, limit, read⟩ := (bind_ok _ _ header).mp read
        obtain ⟨baseFee, fee, read⟩ := (bind_ok _ _ header).mp read
        by_cases many : 4 < items.length
        · rw [if_pos many] at read
          cases read
        · rw [if_neg many] at read
          cases read
          exact ⟨Nat.not_lt.mp many, ⟨value, rfl, (quantity_ok value number).mp required⟩,
            (optional_iff _ _).mp time, (optional_iff _ _).mp limit, (optional_iff _ _).mp fee⟩
      · rintro ⟨few, holds⟩
        obtain ⟨_, ⟨⟩, denotes⟩ := holds.number
        dsimp only
        rw [(quantity_ok value header.number).mpr denotes, (optional_iff _ _).mpr holds.timestamp,
          (optional_iff _ _).mpr holds.gasLimit, (optional_iff _ _).mpr holds.baseFee]
        exact if_neg (Nat.not_lt.mpr few)

theorem json_iff (value : Json) (header : Header) :
    ofJson value = .ok header ↔ Denotes value header := by
  cases value with
  | object fields =>
      rw [ofJson, fields_iff]
      exact ⟨.object fields header, fun | .object _ _ holds => holds⟩
  | array items =>
      rw [ofJson, items_iff]
      exact ⟨fun ⟨few, holds⟩ => .array items header few holds,
        fun | .array _ _ few holds => ⟨few, holds⟩⟩
  | _ => exact ⟨nofun, nofun⟩

theorem header_iff (value : Json) (header : Header) :
    ofResult value = .ok header ↔ Denotes value header := by
  rw [← json_iff]
  unfold ofResult
  split
  · rename_i null
    cases value with
    | null => exact ⟨nofun, nofun⟩
    | _ => cases null
  · cases ofJson value with
    | error mismatch => exact ⟨nofun, nofun⟩
    | ok other => exact ⟨fun | rfl => rfl, fun | rfl => rfl⟩

theorem refused_invalid (value : Json) (fault : Fault) (refused : ofResult value = .error fault) :
    ∃ problem, fault = .invalidResponse problem := by
  unfold ofResult at refused
  split at refused
  · cases refused
    exact ⟨_, rfl⟩
  · cases read : ofJson value with
    | ok header =>
        rw [read] at refused
        cases refused
    | error mismatch =>
        rw [read] at refused
        cases refused
        exact ⟨_, rfl⟩

def Invalid (value : Json) : Prop :=
  ∃ problem, ofResult value = .error (.invalidResponse problem)

theorem invalid_of_no_header (value : Json) (none : ∀ header, ¬ Denotes value header) :
    Invalid value := by
  cases read : ofResult value with
  | ok header => exact (none header ((header_iff value header).mp read)).elim
  | error fault =>
      obtain ⟨problem, rfl⟩ := refused_invalid value fault read
      exact ⟨problem, read⟩

theorem denotes_once (value : Json) (one other : Header) (first : Denotes value one)
    (second : Denotes value other) : one = other := by
  have read := (header_iff value one).mpr first
  rw [(header_iff value other).mpr second] at read
  exact (Except.ok.inj read).symm

theorem others_ignored (fields others : Fields)
    (same : ∀ key ∈ ["number", "timestamp", "gasLimit", "baseFeePerGas"],
      fields.lookup key = others.lookup key) :
    ofResult (.object fields) = ofResult (.object others) := by
  have decoded : ofFields fields = ofFields others := by
    unfold ofFields
    rw [same "number" (by simp), same "timestamp" (by simp), same "gasLimit" (by simp),
      same "baseFeePerGas" (by simp)]
  change (ofFields fields).mapError _ = (ofFields others).mapError _
  rw [decoded]

theorem scalar_invalid (value : Json) (object : ∀ fields, value ≠ .object fields)
    (array : ∀ items, value ≠ .array items) : Invalid value := by
  apply invalid_of_no_header
  intro header denotes
  cases denotes with
  | object fields => exact object fields rfl
  | array items => exact array items rfl

theorem length_invalid (items : List Json) (length : items = [] ∨ 4 < items.length) :
    Invalid (.array items) := by
  apply invalid_of_no_header
  intro header denotes
  cases denotes with
  | array _ _ few holds =>
      rcases length with rfl | many
      · obtain ⟨value, there, _⟩ := holds.number
        cases there
      · exact Nat.not_lt.mpr few many

theorem field_required (fields : Fields)
    (none : ∀ value number, fields.lookup "number" = some value → ¬ Quantity.Denotes value number) :
    Invalid (.object fields) := by
  apply invalid_of_no_header
  intro header denotes
  cases denotes with
  | object _ _ holds =>
      obtain ⟨value, there, quantity⟩ := holds.number
      exact none value _ there quantity

theorem item_required (items : List Json)
    (none : ∀ value number, items[0]? = some value → ¬ Quantity.Denotes value number) :
    Invalid (.array items) := by
  apply invalid_of_no_header
  intro header denotes
  cases denotes with
  | array _ _ few holds =>
      obtain ⟨value, there, quantity⟩ := holds.number
      exact none value _ there quantity

end Header

theorem Quantity.overflow_no_quantity (sign digits : List Char) (number other : Nat)
    (signed : sign = [] ∨ sign = ['+']) (numeral : Hexadecimal.Numeral digits number)
    (large : Nat.pow 2 64 ≤ number) :
    ¬ Denotes (.string (String.ofList ('0' :: 'x' :: (sign ++ digits)))) other := by
  intro denotes
  generalize same : Json.string _ = value at denotes
  cases denotes with
  | integer => cases same
  | marked otherSign otherDigits other otherSigned some otherNumeral bounded =>
      have texts := String.ofList_injective (Json.string.inj same)
      have bodies : sign ++ digits = otherSign ++ otherDigits := by
        simpa using texts
      have unsigned (chars : List Char) (value : Nat)
          (numeral : Hexadecimal.Numeral ('+' :: chars) value) : False := by
        obtain ⟨digit, plus⟩ := Hexadecimal.numeral_digits _ value numeral '+' List.mem_cons_self
        exact Hexadecimal.plus_no_digit digit plus
      have digitsSame : digits = otherDigits := by
        rcases signed with rfl | rfl <;> rcases otherSigned with rfl | rfl
        · exact bodies
        · change digits = '+' :: otherDigits at bodies
          exact (unsigned otherDigits number (bodies ▸ numeral)).elim
        · change '+' :: digits = otherDigits at bodies
          exact (unsigned digits other (bodies ▸ otherNumeral)).elim
        · exact (List.cons.inj bodies).2
      subst digitsSame
      have read := (Hexadecimal.number_iff digits number).mpr numeral
      rw [(Hexadecimal.number_iff digits other).mpr otherNumeral] at read
      cases read
      exact Nat.not_lt.mpr large bounded

namespace Header

theorem headers_exact :
    (∀ value header, ofResult value = .ok header ↔ Denotes value header) ∧
    (∀ value, (∀ header, ¬ Denotes value header) → Invalid value) ∧
    (∀ value one other, Denotes value one → Denotes value other → one = other) ∧
    (∀ fields others : Fields,
      (∀ key ∈ ["number", "timestamp", "gasLimit", "baseFeePerGas"],
        fields.lookup key = others.lookup key) →
      ofResult (.object fields) = ofResult (.object others)) ∧
    ofResult .null = .error (.invalidResponse "block not found") ∧
    (∀ value, (∀ fields, value ≠ .object fields) → (∀ items, value ≠ .array items) →
      Invalid value) ∧
    (∀ items, items = [] ∨ 4 < items.length → Invalid (.array items)) ∧
    (∀ fields : Fields, (∀ value number, fields.lookup "number" = some value →
      ¬ Quantity.Denotes value number) → Invalid (.object fields)) ∧
    (∀ items : List Json, (∀ value number, items[0]? = some value →
      ¬ Quantity.Denotes value number) → Invalid (.array items)) ∧
    (∀ number, ¬ Quantity.Denotes .null number) ∧
    ∀ sign digits number other, sign = [] ∨ sign = ['+'] → Hexadecimal.Numeral digits number →
      Nat.pow 2 64 ≤ number →
      ¬ Quantity.Denotes (.string (String.ofList ('0' :: 'x' :: (sign ++ digits)))) other :=
  ⟨header_iff, invalid_of_no_header, denotes_once, others_ignored, rfl, scalar_invalid,
    length_invalid, field_required, item_required, null_no_quantity,
    Quantity.overflow_no_quantity⟩

theorem headers_exact_array :
    ofResult (.array [.ofNat 7, .null, .ofNat 30000000]) = .ok ⟨7, none, some 30000000, none⟩ ∧
      Invalid (.array [.null, .ofNat 7]) := by
  obtain ⟨reads, _, _, _, _, _, _, _, required, nulls, _⟩ := headers_exact
  have holds : Holds (some (.ofNat 7)) (some .null) (some (.ofNat 30000000)) none
      ⟨7, none, some 30000000, none⟩ :=
    ⟨⟨_, rfl, .integer 7 (by decide)⟩, .null, .given _ _ (.integer 30000000 (by decide)), .absent⟩
  refine ⟨(reads _ _).mpr (.array _ _ (by decide) holds), required _ fun value number first => ?_⟩
  cases first
  exact nulls number

end Header

end RequestLayer
