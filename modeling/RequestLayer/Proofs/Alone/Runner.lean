import RequestLayer.Await
import RequestLayer.Fault
import RequestLayer.Routine

set_option autoImplicit false

namespace RequestLayer

structure Runner (m : Type → Type) [Monad m] [Await m] (σ : Type) where
  run : {α : Type} → m α → StateM σ α
  value : ∀ {α : Type} (result : α), run (pure result) = pure result
  sequence : ∀ {α β : Type} (first : m α) (next : α → m β),
    run (first >>= next) = run first >>= fun result => run (next result)
  pause : ∀ point, run (await point) = pure ()

namespace Runner

def blocking (σ : Type) : Runner (StateM σ) σ where
  run action := action
  value _ := rfl
  sequence _ _ := rfl
  pause _ := rfl

def alone (σ : Type) : Runner (Routine σ) σ where
  run := Routine.run
  value _ := rfl
  sequence := Routine.run_bind
  pause _ := rfl

variable {m : Type → Type} [Monad m] [Await m] {σ κ α β : Type} (runner : Runner m σ)

def outcome (action : ExceptT Fault m α) (state : σ) : Except Fault α :=
  (runner.run action.run state).1

def after (action : ExceptT Fault m α) (state : σ) : σ := (runner.run action.run state).2

def Fixed (kept : σ → κ) (action : ExceptT Fault m α) (result : Except Fault α) : Prop :=
  ∀ state, runner.outcome action state = result ∧ kept (runner.after action state) = kept state

theorem run_pure (value : α) (state : σ) :
    runner.run (pure value : ExceptT Fault m α).run state = (.ok value, state) := by
  rw [ExceptT.run_pure, runner.value]
  rfl

theorem run_bind (first : ExceptT Fault m α) (next : α → ExceptT Fault m β) (state : σ) :
    runner.run (first >>= next).run state =
      match runner.outcome first state with
      | .ok value => runner.run (next value).run (runner.after first state)
      | .error fault => (.error fault, runner.after first state) := by
  rw [ExceptT.run_bind, runner.sequence]
  unfold outcome after
  change runner.run _ (runner.run first.run state).2 = _
  cases (runner.run first.run state).1 with
  | ok value => rfl
  | error fault =>
      dsimp only
      rw [runner.value]
      rfl

theorem outcome_bind (first : ExceptT Fault m α) (next : α → ExceptT Fault m β) (state : σ) :
    runner.outcome (first >>= next) state =
      (runner.outcome first state).bind fun value =>
        runner.outcome (next value) (runner.after first state) := by
  unfold outcome
  rw [run_bind]
  change _ = (runner.outcome first state).bind _
  cases runner.outcome first state <;> rfl

theorem fixed_pure (kept : σ → κ) (value : α) :
    runner.Fixed kept (pure value : ExceptT Fault m α) (.ok value) := by
  intro state
  unfold outcome after
  rw [run_pure]
  exact ⟨rfl, rfl⟩

theorem fixed_bind (kept : σ → κ) (first : ExceptT Fault m α) (next : α → ExceptT Fault m β)
    (result : Except Fault α) (results : α → Except Fault β) (starts : runner.Fixed kept first result)
    (continues : ∀ value, result = .ok value → runner.Fixed kept (next value) (results value)) :
    runner.Fixed kept (first >>= next) (result.bind results) := by
  intro state
  obtain ⟨ended, same⟩ := starts state
  constructor
  · rw [outcome_bind, ended]
    cases result with
    | ok value => exact (continues value rfl _).1
    | error fault => rfl
  · unfold after
    rw [run_bind, ended]
    cases result with
    | ok value => exact ((continues value rfl _).2).trans same
    | error fault => exact same

variable [LawfulMonad m]

theorem fixed_pause (kept : σ → κ) (point : AwaitPoint) (next : ExceptT Fault m α)
    (result : Except Fault α) (continues : runner.Fixed kept next result) :
    runner.Fixed kept (await point >>= fun _ => next : ExceptT Fault m α) result := by
  have paused : runner.Fixed kept (await point : ExceptT Fault m Unit) (.ok ()) := by
    have nothing (state : σ) :
        runner.run (await point : ExceptT Fault m Unit).run state = (.ok (), state) := by
      rw [await_lifted, ExceptT.run_lift, ← bind_pure_comp, runner.sequence, runner.pause]
      change runner.run (pure (Except.ok ())) state = _
      rw [runner.value]
      rfl
    intro state
    unfold outcome after
    rw [nothing]
    exact ⟨rfl, rfl⟩
  exact fixed_bind runner kept _ _ (.ok ()) (fun _ => result) paused fun _ _ => continues

theorem fixed_map (kept : σ → κ) (values : List α) (action : α → ExceptT Fault m β)
    (results : α → Except Fault β) (each : ∀ value, runner.Fixed kept (action value) (results value)) :
    runner.Fixed kept (values.mapM action) (values.mapM results) := by
  induction values with
  | nil => exact fixed_pure runner kept []
  | cons first rest ih =>
      rw [List.mapM_cons, List.mapM_cons]
      apply fixed_bind runner kept _ _ _ _ (each first)
      intro result _
      exact fixed_bind runner kept _ _ _ _ ih fun others _ =>
        fixed_pure runner kept (result :: others)

end Runner

end RequestLayer
