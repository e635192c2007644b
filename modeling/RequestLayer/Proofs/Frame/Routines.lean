import RequestLayer.Proofs.Parallel.Computations
import RequestLayer.Routine

set_option autoImplicit false

namespace RequestLayer

namespace Routine

variable {σ α β : Type}

-- Every change that the routine makes, from whatever state, is within the relation.
def Within (relation : σ → σ → Prop) : Routine σ α → Prop
  | .done _ => True
  | .step change next => ∀ state, relation state (change state) ∧ (next state).Within relation
  | .pause _ next => next.Within relation

theorem bind_within (relation : σ → σ → Prop) (first : Routine σ α) (next : α → Routine σ β)
    (before : first.Within relation) (after : ∀ value, (next value).Within relation) :
    (first >>= next).Within relation := by
  induction first with
  | done result => exact after result
  | step change rest ih =>
      intro state
      exact ⟨(before state).1, ih state (before state).2⟩
  | pause point rest ih => exact ih before

theorem within_mono (relation weaker : σ → σ → Prop)
    (implied : ∀ before after, relation before after → weaker before after) (routine : Routine σ α)
    (within : routine.Within relation) : routine.Within weaker := by
  induction routine with
  | done result => trivial
  | step change rest ih =>
      exact fun state => ⟨implied _ _ (within state).1, ih state (within state).2⟩
  | pause point rest ih => exact ih within

theorem run_within (relation : σ → σ → Prop) (reflexive : ∀ state, relation state state)
    (transitive : ∀ first second third, relation first second → relation second third →
      relation first third)
    (routine : Routine σ α) (within : routine.Within relation) (state : σ) :
    relation state (routine.run state).2 := by
  induction routine generalizing state with
  | done result => exact reflexive state
  | step change next ih =>
      exact transitive _ _ _ (within state).1 (ih state (within state).2 (change state))
  | pause point next ih => exact ih within state

end Routine

structure World.Untouched {ν : Type} (before after : World ν) : Prop where
  stores : after.stores = before.stores
  clients : after.clients = before.clients

theorem World.Untouched.refl {ν : Type} (world : World ν) : world.Untouched world := ⟨rfl, rfl⟩

theorem World.Untouched.trans {ν : Type} (first second third : World ν)
    (one : first.Untouched second) (two : second.Untouched third) : first.Untouched third :=
  ⟨two.stores.trans one.stores, two.clients.trans one.clients⟩

variable {ν : Type} {α β : Type}

def Quiet (ν α : Type) (routine : Routine (World ν) α) : Prop :=
  routine.Within World.Untouched

theorem run_untouched (routine : Routine (World ν) α) (quiet : Quiet ν α routine)
    (world : World ν) : world.Untouched (routine.run world).2 :=
  Routine.run_within _ World.Untouched.refl World.Untouched.trans routine quiet world

theorem quiet_parallel : Parallel (Having (Quiet ν)) := having_parallel (Quiet ν)
  { value := fun _ _ => trivial
    sequence := fun _ _ => Routine.bind_within World.Untouched
    pause := fun _ => trivial }

end RequestLayer
