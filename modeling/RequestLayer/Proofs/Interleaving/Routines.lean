import RequestLayer.Proofs.Frame.Routines

set_option autoImplicit false

namespace RequestLayer.Routine

variable {σ α β : Type}

def isDone : Routine σ α → Bool
  | .done _ => true
  | _ => false

-- The next transition: a change of the state, or the end of a pause.
def advance : Routine σ α → σ → Routine σ α × σ
  | .done result, state => (.done result, state)
  | .step change next, state => (next state, change state)
  | .pause _ next, state => (next, state)

-- What is left of the routine when its transitions have found these states. Between two of them others
-- may have changed the state.
def through (routine : Routine σ α) (states : List σ) : Routine σ α :=
  states.foldl (fun left state => (left.advance state).1) routine

theorem through_cons (routine : Routine σ α) (state : σ) (rest : List σ) :
    routine.through (state :: rest) = (routine.advance state).1.through rest := rfl

theorem through_append (routine : Routine σ α) (early late : List σ) :
    routine.through (early ++ late) = (routine.through early).through late :=
  List.foldl_append

theorem through_done (result : α) (states : List σ) :
    (Routine.done result : Routine σ α).through states = .done result := by
  induction states with
  | nil => rfl
  | cons state rest ih => exact ih

theorem bind_through (first : Routine σ α) (next : α → Routine σ β) (states : List σ) (result : β)
    (ended : (first >>= next).through states = .done result) :
    ∃ early late value, states = early ++ late ∧ first.through early = .done value ∧
      (next value).through late = .done result := by
  induction states generalizing first with
  | nil =>
      cases first with
      | done value => exact ⟨[], [], value, rfl, rfl, ended⟩
      | step change rest => cases ended
      | pause point rest => cases ended
  | cons state states ih =>
      have further (left : Routine σ α) (advanced : (first.advance state).1 = left)
          (rest : (left >>= next).through states = .done result) :
          ∃ early late value, state :: states = early ++ late ∧ first.through early = .done value ∧
            (next value).through late = .done result := by
        obtain ⟨early, late, value, split, before, after⟩ := ih left rest
        refine ⟨state :: early, late, value, congrArg (state :: ·) split, ?_, after⟩
        rw [through_cons, advanced, before]
      cases first with
      | done value => exact ⟨[], state :: states, value, rfl, rfl, ended⟩
      | step change rest => exact further (rest state) rfl ended
      | pause point rest => exact further rest rfl ended

-- The routine has come so far: each of these states was found by one of its transitions, and this is
-- left of it.
inductive Reaches (routine : Routine σ α) : List σ → Routine σ α → Prop where
  | start : routine.Reaches [] routine
  | more (states : List σ) (left : Routine σ α) (state : σ) (before : routine.Reaches states left)
      (running : left.isDone = false) : routine.Reaches (states ++ [state]) (left.advance state).1

theorem bind_advance (first : Routine σ α) (next : α → Routine σ β) (state : σ)
    (running : first.isDone = false) :
    (first >>= next).advance state =
      ((first.advance state).1 >>= next, (first.advance state).2) := by
  cases first with
  | done value => cases running
  | step change rest => rfl
  | pause point rest => rfl

theorem bind_reaches (first : Routine σ α) (next : α → Routine σ β) (states : List σ)
    (left : Routine σ β) (reached : (first >>= next).Reaches states left) :
    (∃ part, first.Reaches states part ∧ part.isDone = false ∧ left = part >>= next) ∨
      ∃ early late value, states = early ++ late ∧ first.Reaches early (.done value) ∧
        (next value).Reaches late left := by
  have arrived (states : List σ) (part : Routine σ α) (there : first.Reaches states part) :
      (∃ inside, first.Reaches states inside ∧ inside.isDone = false ∧
        part >>= next = inside >>= next) ∨
        ∃ early late value, states = early ++ late ∧ first.Reaches early (.done value) ∧
          (next value).Reaches late (part >>= next) := by
    cases part with
    | done value => exact .inr ⟨states, [], value, (List.append_nil _).symm, there, .start⟩
    | step change rest => exact .inl ⟨_, there, rfl, rfl⟩
    | pause point rest => exact .inl ⟨_, there, rfl, rfl⟩
  induction reached with
  | start => exact arrived [] first .start
  | more states left state before running ih =>
      rcases ih with ⟨part, there, going, rfl⟩ | ⟨early, late, value, rfl, there, further⟩
      · rw [bind_advance part next state going]
        exact arrived _ _ (.more states part state there going)
      · exact .inr ⟨early, late ++ [state], value, List.append_assoc _ _ _, there,
          .more late left state further running⟩

theorem reaches_within (relation : σ → σ → Prop) (routine : Routine σ α)
    (within : routine.Within relation) (states : List σ) (left : Routine σ α)
    (reached : routine.Reaches states left) : left.Within relation := by
  induction reached with
  | start => exact within
  | more states left state before running ih =>
      cases left with
      | done value => cases running
      | step change rest => exact (ih state).2
      | pause point rest => exact ih

theorem advance_within (relation : σ → σ → Prop) (reflexive : ∀ state, relation state state)
    (routine : Routine σ α) (within : routine.Within relation) (state : σ) :
    relation state (routine.advance state).2 := by
  cases routine with
  | done value => exact reflexive state
  | step change rest => exact (within state).1
  | pause point rest => exact reflexive state

theorem run_until (routine : Routine σ α) (state : σ) :
    ∃ pauses, routine.runUntil pauses state =
      (some (routine.run state).1, (routine.run state).2) := by
  induction routine generalizing state with
  | done result => exact ⟨0, rfl⟩
  | step change next ih => exact ih state (change state)
  | pause point next ih =>
      obtain ⟨pauses, same⟩ := ih state
      exact ⟨pauses + 1, same⟩

-- Where the states fit, every transition changes them within `quiet`, but that the last one may do
-- what `last` says of the result, the state before and the state after.
def Concludes (fits : σ → Prop) (quiet : σ → σ → Prop) (last : α → σ → σ → Prop) :
    Routine σ α → Prop
  | .done _ => True
  | .step change next => ∀ state, fits state →
      quiet state (change state) ∧ (next state).Concludes fits quiet last ∨
      ∃ result, next state = .done result ∧ last result state (change state)
  | .pause _ next => next.Concludes fits quiet last

section Conclusions

variable (fits : σ → Prop) (quiet : σ → σ → Prop)

theorem within_concludes (last : α → σ → σ → Prop) (routine : Routine σ α)
    (within : routine.Within quiet) : routine.Concludes fits quiet last := by
  induction routine with
  | done result => trivial
  | step change next ih =>
      intro state _
      exact .inl ⟨(within state).1, ih state (within state).2⟩
  | pause point next ih => exact ih within

theorem bind_concludes (last : β → σ → σ → Prop) (first : Routine σ α) (next : α → Routine σ β)
    (before : first.Within quiet) (after : ∀ value, (next value).Concludes fits quiet last) :
    (first >>= next).Concludes fits quiet last := by
  induction first with
  | done value => exact after value
  | step change rest ih =>
      intro state _
      exact .inl ⟨(before state).1, ih state (before state).2⟩
  | pause point rest ih => exact ih before

theorem advance_concludes (last : α → σ → σ → Prop) (reflexive : ∀ state, quiet state state)
    (routine : Routine σ α) (concludes : routine.Concludes fits quiet last) (state : σ)
    (fitting : fits state) :
    quiet state (routine.advance state).2 ∧ (routine.advance state).1.Concludes fits quiet last ∨
      ∃ result, (routine.advance state).1 = .done result ∧
        last result state (routine.advance state).2 := by
  cases routine with
  | done result => exact .inl ⟨reflexive state, trivial⟩
  | step change next => exact concludes state fitting
  | pause point next => exact .inl ⟨reflexive state, concludes⟩

end Conclusions

end RequestLayer.Routine
