import RequestLayer.Proofs.Modes.Copies

set_option autoImplicit false

namespace RequestLayer

abbrev Likeness (m n : Type → Type) := (α : Type) → m α → n α → Prop

-- A relation between two monads that contains results and pauses and goes on through sequences relates
-- all that clients run, as soon as it relates what reads or changes the state.
structure Parallel {m n : Type → Type} [Monad m] [Await m] [Monad n] [Await n]
    (alike : Likeness m n) : Prop where
  value : ∀ (α : Type) (result : α), alike α (pure result) (pure result)
  sequence : ∀ (α β : Type) (first : m α) (other : n α) (next : α → m β) (otherNext : α → n β),
    alike α first other → (∀ value, alike β (next value) (otherNext value)) →
      alike β (first >>= next) (other >>= otherNext)
  pause : ∀ point, alike Unit (await point) (await point)

-- A property that a computation has when the computations that it is made of have it.
structure Closed {m : Type → Type} [Monad m] [Await m] (property : (α : Type) → m α → Prop) :
    Prop where
  value : ∀ (α : Type) (result : α), property α (pure result)
  sequence : ∀ (α β : Type) (first : m α) (next : α → m β), property α first →
    (∀ value, property β (next value)) → property β (first >>= next)
  pause : ∀ point, property Unit (await point)

def Having {m : Type → Type} (property : (α : Type) → m α → Prop) : Likeness m m :=
  fun α action other => action = other ∧ property α action

theorem having_parallel {m : Type → Type} [Monad m] [Await m] (property : (α : Type) → m α → Prop)
    (closed : Closed property) : Parallel (Having property) where
  value α result := ⟨rfl, closed.value α result⟩
  sequence _ _ first _ next _ before after := by
    obtain ⟨rfl, had⟩ := before
    have same : next = _ := funext fun value => (after value).1
    exact ⟨by rw [same], closed.sequence _ _ first next had fun value => (after value).2⟩
  pause point := ⟨rfl, closed.pause point⟩

def Agree {m n : Type → Type} {α : Type} (alike : Likeness m n) (action : ExceptT Fault m α)
    (other : ExceptT Fault n α) : Prop :=
  alike (Except Fault α) action.run other.run

structure Channel.Alike {m n : Type → Type} (alike : Likeness m n) (channel : Channel m)
    (other : Channel n) : Prop where
  send : ∀ call, Agree alike (channel.send call) (other.send call)
  sendBatch : ∀ calls, Agree alike (channel.sendBatch calls) (other.sendBatch calls)

namespace Parallel

variable {m n : Type → Type} [Monad m] [Await m] [Monad n] [Await n] {alike : Likeness m n}
  (parallel : Parallel alike) {α β : Type}

include parallel

theorem known_agree (outcome : Except Fault α) :
    Agree alike (ExceptT.mk (pure outcome)) (ExceptT.mk (pure outcome)) :=
  parallel.value _ outcome

theorem pure_agree (value : α) : Agree alike (pure value) (pure value) :=
  parallel.known_agree (.ok value)

theorem throw_agree (fault : Fault) : Agree (α := α) alike (throw fault) (throw fault) :=
  parallel.known_agree (.error fault)

theorem bind_agree (first : ExceptT Fault m α) (other : ExceptT Fault n α)
    (next : α → ExceptT Fault m β) (otherNext : α → ExceptT Fault n β)
    (before : Agree alike first other) (after : ∀ value, Agree alike (next value) (otherNext value)) :
    Agree alike (first >>= next) (other >>= otherNext) := by
  unfold Agree
  rw [ExceptT.run_bind, ExceptT.run_bind]
  apply parallel.sequence _ _ _ _ _ _ before
  intro outcome
  cases outcome with
  | error fault => exact parallel.value _ _
  | ok value => exact after value

variable [LawfulMonad m] [LawfulMonad n]

theorem repeated_agree (sleep : m Unit) (otherSleep : n Unit) (action : ExceptT Fault m α)
    (other : ExceptT Fault n α) (more : Nat) (sleeping : alike Unit sleep otherSleep)
    (acting : Agree alike action other) :
    Agree alike (Retry.repeated sleep action more) (Retry.repeated otherSleep other more) := by
  induction more with
  | zero =>
      rw [Retry.repeated_zero, Retry.repeated_zero]
      exact acting
  | succ more ih =>
      rw [Retry.repeated_succ, Retry.repeated_succ]
      apply parallel.sequence _ _ _ _ _ _ acting
      intro outcome
      cases outcome with
      | ok value => exact parallel.value _ _
      | error fault =>
          dsimp only
          split
          · exact parallel.sequence _ _ _ _ _ _ (parallel.pause .delay) fun _ =>
              parallel.sequence _ _ _ _ _ _ sleeping fun _ => ih
          · exact parallel.value _ _

theorem retry_channel_agree (retry : Retry) (sleep : Delay → m Unit) (otherSleep : Delay → n Unit)
    (channel : Channel m) (other : Channel n)
    (sleeping : ∀ delay, alike Unit (sleep delay) (otherSleep delay))
    (same : channel.Alike alike other) :
    (retry.channel sleep channel).Alike alike (retry.channel otherSleep other) :=
  ⟨fun call => parallel.repeated_agree _ _ _ _ _ (sleeping _) (same.send call),
    fun calls => parallel.repeated_agree _ _ _ _ _ (sleeping _) (same.sendBatch calls)⟩

theorem map_alike (change : α → β) (action : m α) (other : n α) (same : alike α action other) :
    alike β (change <$> action) (change <$> other) := by
  rw [← bind_pure_comp, ← bind_pure_comp]
  exact parallel.sequence _ _ _ _ _ _ same fun _ => parallel.value _ _

theorem lift_agree (action : m α) (other : n α) (same : alike α action other) :
    Agree alike (ExceptT.lift action) (ExceptT.lift other) := by
  unfold Agree
  rw [ExceptT.run_lift, ExceptT.run_lift]
  exact parallel.map_alike _ _ _ same

theorem await_agree (point : AwaitPoint) : Agree alike (await point) (await point) := by
  rw [await_lifted, await_lifted]
  exact parallel.lift_agree _ _ (parallel.pause point)

theorem map_agree {κ : Type} (calls : List κ) (action : κ → ExceptT Fault m α)
    (other : κ → ExceptT Fault n α) (each : ∀ call, Agree alike (action call) (other call)) :
    Agree alike (calls.mapM action) (calls.mapM other) := by
  induction calls with
  | nil => exact parallel.pure_agree []
  | cons call rest ih =>
      rw [List.mapM_cons, List.mapM_cons]
      exact parallel.bind_agree _ _ _ _ (each call) fun _ =>
        parallel.bind_agree _ _ _ _ ih fun _ => parallel.pure_agree _

end Parallel

end RequestLayer
