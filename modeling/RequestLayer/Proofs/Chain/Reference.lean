import RequestLayer.Chain.BlockRef

set_option autoImplicit false

namespace RequestLayer

theorem tag_of_name (text : String) (tag : BlockTag) :
    BlockTag.ofName? text = some tag ↔ text = tag.name := by
  constructor
  · intro found
    unfold BlockTag.ofName? at found
    split at found <;> cases found <;> rfl
  · rintro rfl
    cases tag <;> rfl

theorem read_named (text : String) (tag : BlockTag) (named : BlockTag.ofName? text = some tag) :
    BlockRef.ofJson? (.string text) = some (.tag tag) := by
  simp only [BlockRef.ofJson?, named]

theorem read_unnamed (text : String) (unnamed : BlockTag.ofName? text = none) :
    BlockRef.ofJson? (.string text) =
      if text.utf8ByteSize = BlockRef.hashTextLength then (BlockRef.hash? text).map .hash
      else (Quantity.ofJson? (.string text)).map .number := by
  simp only [BlockRef.ofJson?, unnamed]

theorem read_tag (value : Json) (tag : BlockTag) :
    BlockRef.ofJson? value = some (.tag tag) ↔ value = .string tag.name := by
  constructor
  · intro found
    cases value with
    | string text =>
        cases named : BlockTag.ofName? text with
        | some other =>
            rw [read_named text other named] at found
            cases found
            rw [(tag_of_name text tag).mp named]
        | none =>
            rw [read_unnamed text named] at found
            split at found <;> simp at found
    | _ => simp [BlockRef.ofJson?] at found
  · rintro rfl
    exact read_named tag.name tag ((tag_of_name tag.name tag).mpr rfl)

theorem long_text_no_number (text : String) (number : Nat)
    (long : text.utf8ByteSize = BlockRef.hashTextLength) :
    BlockRef.ofJson? (.string text) ≠ some (.number number) := by
  cases named : BlockTag.ofName? text with
  | some tag => simp [read_named text tag named]
  | none => simp [read_unnamed text named, long]

namespace Hexadecimal

theorem digit_of_char : ∀ digit < 16, digit? (Nat.digitChar digit) = some digit := by
  decide

theorem digit_lower : ∀ digit < 16, Nat.digitChar digit ∈ "0123456789abcdef".toList := by
  decide

theorem bytes_of_digits (bytes : List UInt8) : bytes? (ofBytes bytes) = some bytes := by
  induction bytes with
  | nil => rfl
  | cons byte rest ih =>
      have small := byte.toNat_lt
      have high := digit_of_char (byte.toNat / 16) (by omega)
      have low := digit_of_char (byte.toNat % 16) (by omega)
      have whole : UInt8.ofNat (byte.toNat / 16 * 16 + byte.toNat % 16) = byte := by
        rw [Nat.div_add_mod', UInt8.ofNat_toNat]
      have others : ofBytes (byte :: rest) =
          Nat.digitChar (byte.toNat / 16) :: Nat.digitChar (byte.toNat % 16) :: ofBytes rest := rfl
      rw [others, bytes?, high, low, ih]
      exact congrArg (fun first => some (first :: rest)) whole

theorem digits_length (bytes : List UInt8) : (ofBytes bytes).length = 2 * bytes.length := by
  induction bytes with
  | nil => rfl
  | cons byte rest ih =>
      simp only [ofBytes, List.flatMap_cons, List.length_append, List.length_cons] at ih ⊢
      simp only [ih, List.length_nil]
      omega

theorem digits_lower (bytes : List UInt8) (c : Char) (member : c ∈ ofBytes bytes) :
    c ∈ "0123456789abcdef".toList := by
  obtain ⟨byte, _, written⟩ := List.mem_flatMap.mp member
  have small := byte.toNat_lt
  rcases List.mem_cons.mp written with rfl | second
  · exact digit_lower (byte.toNat / 16) (by omega)
  · rw [List.mem_singleton.mp second]
    exact digit_lower (byte.toNat % 16) (by omega)

end Hexadecimal

theorem read_marked (hash : Bytes32) : BlockRef.hash? (Hexadecimal.marked hash) = some hash := by
  have length := Hexadecimal.digits_length hash.toList
  have even : (Hexadecimal.ofBytes hash.toList).length % 2 ≠ 1 := by omega
  have array : hash.toList.toArray = hash.toArray := Array.toArray_toList
  simp [BlockRef.hash?, Hexadecimal.marked, Hexadecimal.unmarked?, even,
    Hexadecimal.bytes_of_digits, array]

end RequestLayer
