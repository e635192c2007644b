import RequestLayer.Fingerprint
import RequestLayer.Proofs.Json.Decoding

set_option autoImplicit false

namespace RequestLayer

theorem decimal_injective (one other : Nat) (same : toString one = toString other) : one = other := by
  rw [Nat.toString_eq_ofList_toDigits, Nat.toString_eq_ofList_toDigits] at same
  have digits := congrArg Decimal.number (String.ofList_injective same)
  rw [Decimal.number_of, Decimal.number_of] at digits
  exact digits

namespace Context

def mark : Context → List Char
  | .caller _ => ['c', 't']
  | .task _ => ['t', 'a']
  | .thread _ => ['t', 'h']

theorem text_marked (context : Context) : context.text.toList.take 2 = context.mark := by
  cases context with
  | caller id =>
      have shape : (caller id).text.toList = "ctx:".toList ++ id.toList := String.toList_append
      rw [shape]
      rfl
  | task number =>
      have shape : (task number).text.toList = "task:".toList ++ (toString number).toList :=
        String.toList_append
      rw [shape]
      rfl
  | thread number =>
      have shape : (thread number).text.toList =
          "thread:ThreadId(".toList ++ ((toString number).toList ++ ")".toList) := by
        rw [← String.toList_append, ← String.toList_append, ← String.append_assoc]
        rfl
      rw [shape]
      rfl

theorem context_text_injective (one other : Context) (same : one.text = other.text) :
    one = other := by
  have marks : one.mark = other.mark := by rw [← text_marked, same, text_marked]
  cases one with
  | caller id =>
      cases other with
      | caller otherId =>
          rw [(String.append_right_inj "ctx:").mp same]
      | _ => cases marks
  | task number =>
      cases other with
      | task otherNumber =>
          rw [decimal_injective number otherNumber ((String.append_right_inj _).mp same)]
      | _ => cases marks
  | thread number =>
      cases other with
      | thread otherNumber =>
          have inner := (String.append_left_inj _).mp same
          rw [decimal_injective number otherNumber ((String.append_right_inj _).mp inner)]
      | _ => cases marks

end Context

namespace Fingerprint

theorem length_bytes_injective (one other : Nat) (short : one < 2 ^ 32) (otherShort : other < 2 ^ 32)
    (same : lengthBytes one = lengthBytes other) : one = other := by
  simp only [lengthBytes, List.map_cons, List.map_nil, List.cons.injEq, ← UInt8.toNat_inj,
    UInt8.toNat_ofNat', Nat.shiftRight_eq_div_pow] at same
  omega

theorem framed_decodes (one other : String) (rest otherRest : List UInt8)
    (short : one.utf8ByteSize < 2 ^ 32) (otherShort : other.utf8ByteSize < 2 ^ 32)
    (same : framed one ++ rest = framed other ++ otherRest) : one = other ∧ rest = otherRest := by
  have size (text : String) : text.toUTF8.data.toList.length = text.utf8ByteSize :=
    String.size_toByteArray
  rw [framed, framed, List.append_assoc, List.append_assoc] at same
  obtain ⟨lengths, bodies⟩ := List.append_inj same rfl
  have sizes := length_bytes_injective _ _ short otherShort lengths
  rw [← size, ← size] at sizes
  obtain ⟨bytes, rests⟩ := List.append_inj bodies sizes
  have arrays : one.toByteArray = other.toByteArray := ByteArray.ext (Array.toList_inj.mp bytes)
  exact ⟨String.toByteArray_inj.mp arrays, rests⟩

def Framable (context : Context) (method : String) (params : List Json) : Prop :=
  context.text.utf8ByteSize < 2 ^ 32 ∧ method.utf8ByteSize < 2 ^ 32 ∧
    (Json.array params).compact.utf8ByteSize < 2 ^ 32

instance (context : Context) (method : String) (params : List Json) :
    Decidable (Framable context method params) := inferInstanceAs (Decidable (_ ∧ _))

theorem preimage_shape (context : Context) (method : String) (params : List Json) :
    preimage context method params =
      framed context.text ++ (framed method ++ (framed (Json.array params).compact ++ [])) := by
  rw [preimage, List.append_nil, List.append_assoc]

theorem preimage_decodes (context other : Context) (method otherMethod : String)
    (params otherParams : List Json) (framable : Framable context method params)
    (otherFramable : Framable other otherMethod otherParams)
    (same : preimage context method params = preimage other otherMethod otherParams) :
    context = other ∧ method = otherMethod ∧ params = otherParams := by
  rw [preimage_shape, preimage_shape] at same
  obtain ⟨contexts, afterContext⟩ := framed_decodes _ _ _ _ framable.1 otherFramable.1 same
  obtain ⟨methods, afterMethod⟩ :=
    framed_decodes _ _ _ _ framable.2.1 otherFramable.2.1 afterContext
  obtain ⟨texts, _⟩ := framed_decodes _ _ _ _ framable.2.2 otherFramable.2.2 afterMethod
  have arrays := Json.compact_injective _ _ texts
  exact ⟨Context.context_text_injective context other contexts, methods, Json.array.inj arrays⟩

theorem calls_of_one_preimage :
    (∀ (context other : Context) (method otherMethod : String) (params otherParams : List Json),
      Framable context method params → Framable other otherMethod otherParams →
        preimage context method params = preimage other otherMethod otherParams →
          context = other ∧ method = otherMethod ∧ params = otherParams) ∧
      ∀ (id : String) (task thread : Nat),
        (Context.caller id).text ≠ (Context.task task).text ∧
          (Context.caller id).text ≠ (Context.thread thread).text ∧
            (Context.task task).text ≠ (Context.thread thread).text := by
  refine ⟨preimage_decodes, fun id task thread => ⟨?_, ?_, ?_⟩⟩
  · intro same
    cases Context.context_text_injective _ _ same
  · intro same
    cases Context.context_text_injective _ _ same
  · intro same
    cases Context.context_text_injective _ _ same

-- Two spellings of one call: the fields of its first parameter are given in either order.
theorem spellings_of_one_call :
    Framable (.caller "ctx:\"") "eth_call"
        [Json.ofFields [("to", "0x5f\n"), ("data", .array [.null, ""])], "latest"] ∧
      preimage (.caller "ctx:\"") "eth_call"
          [Json.ofFields [("to", "0x5f\n"), ("data", .array [.null, ""])], "latest"] =
        preimage (.caller "ctx:\"") "eth_call"
          [Json.ofFields [("data", .array [.null, ""]), ("to", "0x5f\n")], "latest"] ∧
      [Json.ofFields [("to", "0x5f\n"), ("data", .array [.null, ""])], Json.string "latest"] =
        [Json.ofFields [("data", .array [.null, ""]), ("to", "0x5f\n")], Json.string "latest"] := by
  have framable : Framable (.caller "ctx:\"") "eth_call"
      [Json.ofFields [("to", "0x5f\n"), ("data", .array [.null, ""])], "latest"] := by
    decide +kernel
  have otherFramable : Framable (.caller "ctx:\"") "eth_call"
      [Json.ofFields [("data", .array [.null, ""]), ("to", "0x5f\n")], "latest"] := by
    decide +kernel
  have same : preimage (.caller "ctx:\"") "eth_call"
        [Json.ofFields [("to", "0x5f\n"), ("data", .array [.null, ""])], "latest"] =
      preimage (.caller "ctx:\"") "eth_call"
        [Json.ofFields [("data", .array [.null, ""]), ("to", "0x5f\n")], "latest"] := by
    decide +kernel
  exact ⟨framable, same,
    (calls_of_one_preimage.1 _ _ _ _ _ _ framable otherFramable same).2.2⟩

end Fingerprint

end RequestLayer
