set_option autoImplicit false

namespace RequestLayer

variable {ε α β γ : Type}

theorem bind_ok (first : Except ε α) (next : α → Except ε β) (result : β) :
    first.bind next = .ok result ↔ ∃ value, first = .ok value ∧ next value = .ok result := by
  cases first with
  | error fault => exact ⟨nofun, nofun⟩
  | ok value =>
      constructor
      · exact fun same => ⟨value, rfl, same⟩
      · rintro ⟨_, ⟨rfl⟩, same⟩
        exact same

theorem map_cons_ok (first : α) (rest : List α) (action : α → Except ε β) (results : List β) :
    (first :: rest).mapM action = .ok results ↔
      ∃ result others, action first = .ok result ∧ rest.mapM action = .ok others ∧
        results = result :: others := by
  rw [List.mapM_cons]
  constructor
  · intro same
    obtain ⟨result, done, after⟩ := (bind_ok _ _ results).mp same
    obtain ⟨others, following, same⟩ := (bind_ok _ _ results).mp after
    cases same
    exact ⟨result, others, done, following, rfl⟩
  · rintro ⟨result, others, done, following, rfl⟩
    rw [done, following]
    rfl

theorem map_ok_length (values : List α) (action : α → Except ε β) (results : List β)
    (done : values.mapM action = .ok results) : results.length = values.length := by
  induction values generalizing results with
  | nil => cases done; rfl
  | cons first rest ih =>
      obtain ⟨result, others, _, following, rfl⟩ := (map_cons_ok _ _ _ results).mp done
      exact congrArg (· + 1) (ih others following)

-- Two passes over a list come to the same results as one that does both for each value in turn.
theorem passes_ok (values : List α) (out : α → Except ε β) (back : α → β → Except ε γ)
    (results : List γ) :
    ((values.mapM out).bind fun between => (values.zip between).mapM fun pair =>
        back pair.1 pair.2) = .ok results ↔
      values.map (fun value => (out value).bind (back value)) = results.map .ok := by
  induction values generalizing results with
  | nil =>
      cases results with
      | nil => exact ⟨fun _ => rfl, fun _ => rfl⟩
      | cons result following => exact ⟨nofun, nofun⟩
  | cons first rest ih =>
      constructor
      · intro same
        obtain ⟨between, sent, after⟩ := (bind_ok _ _ results).mp same
        obtain ⟨value, others, done, outward, rfl⟩ := (map_cons_ok _ _ _ between).mp sent
        obtain ⟨result, following, replied, inward, rfl⟩ := (map_cons_ok _ _ _ results).mp after
        have single : (out first).bind (back first) = .ok result :=
          (bind_ok _ _ _).mpr ⟨value, done, replied⟩
        have tail := (ih following).mp ((bind_ok _ _ _).mpr ⟨others, outward, inward⟩)
        rw [List.map_cons, List.map_cons, single, tail]
      · intro same
        cases results with
        | nil => cases same
        | cons result following =>
            obtain ⟨single, tail⟩ := List.cons_eq_cons.mp same
            obtain ⟨value, done, replied⟩ := (bind_ok _ _ _).mp single
            obtain ⟨others, outward, inward⟩ := (bind_ok _ _ _).mp ((ih following).mpr tail)
            exact (bind_ok _ _ _).mpr ⟨value :: others,
              (map_cons_ok _ _ _ _).mpr ⟨value, others, done, outward, rfl⟩,
              (map_cons_ok _ _ _ _).mpr ⟨result, following, replied, inward, rfl⟩⟩

end RequestLayer
