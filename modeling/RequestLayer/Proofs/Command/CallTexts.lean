import Mathlib.Data.List.TakeWhile
import RequestLayer.Command.Run
import RequestLayer.Proofs.Outcomes

set_option autoImplicit false

namespace RequestLayer.Command

-- The text names the call: its method alone, or its method, an equals sign and a text of its
-- parameters.
inductive CallText : String → Call → Prop
  | bare (method : String) (named : method ≠ "") (plain : '=' ∉ method.toList) :
      CallText method ⟨method, []⟩
  | given (method written : String) (params : Params) (named : method ≠ "")
      (plain : '=' ∉ method.toList) (read : Json.read written = .ok (.array params)) :
      CallText (method ++ "=" ++ written) ⟨method, params⟩

inductive Cut : String → Prop
  | bare (method : String) (plain : '=' ∉ method.toList) : Cut method
  | given (method written : String) (plain : '=' ∉ method.toList) : Cut (method ++ "=" ++ written)

theorem text_cut (text : String) : Cut text := by
  have whole := List.takeWhile_append_dropWhile (p := (· ≠ '=')) (l := text.toList)
  have plain : '=' ∉ text.toList.takeWhile (· ≠ '=') := by
    intro member
    simpa using List.mem_takeWhile_imp member
  cases rest : text.toList.dropWhile (· ≠ '=') with
  | nil =>
      rw [rest, List.append_nil] at whole
      rw [whole] at plain
      exact .bare text plain
  | cons c written =>
      have mark := List.head?_dropWhile_not (· ≠ '=') text.toList
      rw [rest] at mark whole
      obtain rfl : c = '=' := by simpa using mark
      have same : text = String.ofList (text.toList.takeWhile (· ≠ '=')) ++ "=" ++
          String.ofList written := by
        apply String.toList_injective
        simpa using whole.symm
      rw [same]
      exact .given _ _ (by rwa [String.toList_ofList])

theorem before_nothing (chars : List Char) (plain : '=' ∉ chars) :
    chars.takeWhile (· ≠ '=') = chars := by
  rw [List.takeWhile_eq_self_iff]
  intro c member
  simpa using fun same : c = '=' => plain (same ▸ member)

theorem before_equals (chars rest : List Char) (plain : '=' ∉ chars) :
    (chars ++ '=' :: rest).takeWhile (· ≠ '=') = chars := by
  rw [List.takeWhile_append, before_nothing chars plain, if_pos rfl,
    List.takeWhile_cons_of_neg (by decide), List.append_nil]

theorem equals_text (method written : String) :
    (method ++ "=" ++ written).toList = method.toList ++ '=' :: written.toList := by
  simp

theorem read_params_iff (written : String) (params : Params) :
    readParams written = .ok params ↔ Json.read written = .ok (.array params) := by
  unfold readParams
  cases read : Json.read written with
  | error fault => exact ⟨nofun, nofun⟩
  | ok value =>
      cases value with
      | array items =>
          change Except.ok items = Except.ok params ↔ _
          rw [Except.ok.injEq, Except.ok.injEq, Json.array.injEq]
      | _ => exact ⟨nofun, nofun⟩

theorem named_iff (text : String) (method : List Char) (found : Except Chain Params) (call : Call) :
    (found.bind fun params =>
      if method.isEmpty then .error [.message s!"Missing method name in call: {text}"]
      else .ok ⟨String.ofList method, params⟩) = .ok call ↔
      String.ofList method ≠ "" ∧
        ∃ params, found = .ok params ∧ call = ⟨String.ofList method, params⟩ := by
  have empty : method.isEmpty = true ↔ String.ofList method = "" := by
    rw [List.isEmpty_iff, ← String.toList_eq_nil_iff, String.toList_ofList]
  rw [bind_ok]
  constructor
  · rintro ⟨params, read, made⟩
    split at made
    · cases made
    · rename_i named
      cases made
      exact ⟨fun same => named (empty.mpr same), params, read, rfl⟩
  · rintro ⟨named, params, read, rfl⟩
    exact ⟨params, read, if_neg fun same => named (empty.mp same)⟩

theorem read_bare_iff (method : String) (call : Call) (plain : '=' ∉ method.toList) :
    readCallText method = .ok call ↔ method ≠ "" ∧ call = ⟨method, []⟩ := by
  have read := named_iff method method.toList (.ok []) call
  unfold readCallText
  dsimp only
  rw [before_nothing _ plain, List.drop_length]
  rw [String.ofList_toList] at read ⊢
  refine read.trans (and_congr_right fun _ => ?_)
  exact ⟨fun ⟨_, same, made⟩ => Except.ok.inj same ▸ made, fun made => ⟨[], rfl, made⟩⟩

theorem read_given_iff (method written : String) (call : Call) (plain : '=' ∉ method.toList) :
    readCallText (method ++ "=" ++ written) = .ok call ↔
      method ≠ "" ∧ ∃ params, Json.read written = .ok (.array params) ∧ call = ⟨method, params⟩ := by
  have read := named_iff (method ++ "=" ++ written) method.toList (readParams written) call
  unfold readCallText
  dsimp only
  rw [equals_text, before_equals _ _ plain, List.drop_left]
  simp only [String.ofList_toList, read_params_iff] at read ⊢
  exact read

theorem read_call_iff (text : String) (call : Call) :
    readCallText text = .ok call ↔ CallText text call := by
  constructor
  · intro accepted
    cases text_cut text with
    | bare _ plain =>
        obtain ⟨named, rfl⟩ := (read_bare_iff text call plain).mp accepted
        exact .bare text named plain
    | given method written plain =>
        obtain ⟨named, params, read, rfl⟩ :=
          (read_given_iff method written call plain).mp accepted
        exact .given method written params named plain read
  · intro names
    cases names with
    | bare method named plain => exact (read_bare_iff text _ plain).mpr ⟨named, rfl⟩
    | given method written params named plain read =>
        exact (read_given_iff method written _ plain).mpr ⟨named, params, read, rfl⟩

theorem call_text_method (text : String) (call : Call) (names : CallText text call) :
    call.method ≠ "" ∧ call.method.toList = text.toList.takeWhile (· ≠ '=') := by
  cases names with
  | bare method named plain => exact ⟨named, (before_nothing _ plain).symm⟩
  | given method written params named plain read =>
      rw [equals_text, before_equals _ _ plain]
      exact ⟨named, rfl⟩

end RequestLayer.Command
