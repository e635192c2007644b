import RequestLayer.Retry

set_option autoImplicit false

namespace RequestLayer.Retry

def Allows (listed method : String) : Prop :=
  listed = method ∨ '_' ∉ listed.toList ∧ listed.toList ++ ['_'] <+: method.toList

theorem before_first_iff (mark : Char) (front text : List Char) :
    front = text.takeWhile (· ≠ mark) ↔ mark ∉ front ∧ (front = text ∨ front ++ [mark] <+: text) := by
  induction text generalizing front with
  | nil =>
      constructor
      · rintro rfl
        exact ⟨List.not_mem_nil, .inl rfl⟩
      · rintro ⟨_, same | ⟨rest, long⟩⟩
        · exact same
        · cases front <;> cases long
  | cons char rest ih =>
      by_cases marked : char = mark
      · subst marked
        have ends : (char :: rest).takeWhile (· ≠ char) = [] := by simp
        rw [ends]
        constructor
        · rintro rfl
          exact ⟨List.not_mem_nil, .inr ⟨rest, rfl⟩⟩
        · rintro ⟨free, same | ⟨_, same⟩⟩
          · exact absurd (same ▸ List.mem_cons_self) free
          · cases front with
            | nil => rfl
            | cons head tail => exact absurd ((List.cons_eq_cons.mp same).1 ▸ List.mem_cons_self) free
      · have goesOn : (char :: rest).takeWhile (· ≠ mark) = char :: rest.takeWhile (· ≠ mark) := by
          simp [marked]
        rw [goesOn]
        cases front with
        | nil =>
            refine ⟨nofun, ?_⟩
            rintro ⟨_, same | ⟨_, same⟩⟩
            · cases same
            · exact absurd (List.cons_eq_cons.mp same).1.symm marked
        | cons head tail =>
            rw [List.cons_append, List.cons_prefix_cons, List.cons_eq_cons, List.cons_eq_cons, ih,
              List.mem_cons, not_or]
            constructor
            · rintro ⟨rfl, free, within⟩
              exact ⟨⟨Ne.symm marked, free⟩, within.imp (.intro rfl) (.intro rfl)⟩
            · rintro ⟨⟨_, free⟩, ⟨rfl, same⟩ | ⟨rfl, starts⟩⟩
              · exact ⟨rfl, free, .inl same⟩
              · exact ⟨rfl, free, .inr starts⟩

theorem namespace_iff (listed method : String) :
    listed = namespaceOf method ↔ '_' ∉ listed.toList ∧
      (listed = method ∨ listed.toList ++ ['_'] <+: method.toList) := by
  rw [← String.toList_inj, namespaceOf, String.toList_ofList, before_first_iff, String.toList_inj]

theorem covers_iff (retry : Retry) (method : String) :
    retry.covers method = true ↔ ∃ listed ∈ retry.methods, Allows listed method := by
  rw [covers, List.any_eq_true]
  apply exists_congr
  intro listed
  apply and_congr_right
  intro _
  rw [Bool.or_eq_true, beq_iff_eq, beq_iff_eq, namespace_iff]
  constructor
  · rintro (⟨plain, same | starts⟩ | same)
    · exact .inl same
    · exact .inr ⟨plain, starts⟩
    · exact .inl same
  · rintro (same | ⟨plain, starts⟩)
    · exact .inr same
    · exact .inl ⟨plain, .inr starts⟩

example : covers ⟨5, ⟨125⟩, ["net"]⟩ "net_version" = true ∧
    covers ⟨5, ⟨125⟩, ["net"]⟩ "network_x" = false := by decide

theorem covers_all_iff (retry : Retry) (calls : List Call) :
    retry.coversAll calls = true ↔
      calls ≠ [] ∧ ∀ call ∈ calls, retry.covers call.method = true := by
  rw [coversAll, Bool.and_eq_true, List.all_eq_true, Bool.not_eq_true', List.isEmpty_eq_false_iff]

theorem uncovered_batch (retry : Retry) (calls : List Call) (call : Call) (member : call ∈ calls)
    (uncovered : retry.covers call.method = false) : retry.coversAll calls = false := by
  apply Bool.eq_false_iff.mpr
  intro all
  rw [((covers_all_iff retry calls).mp all).2 call member] at uncovered
  cases uncovered

end RequestLayer.Retry
