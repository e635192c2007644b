import RequestLayer.Await

set_option autoImplicit false

namespace RequestLayer

inductive Routine (σ : Type) (α : Type) : Type where
  | done (result : α)
  | step (change : σ → σ) (next : σ → Routine σ α)
  | pause (point : AwaitPoint) (next : Routine σ α)

namespace Routine

variable {σ α β : Type}

protected def bind : Routine σ α → (α → Routine σ β) → Routine σ β
  | .done result, f => f result
  | .step change next, f => .step change fun state => (next state).bind f
  | .pause point next, f => .pause point (next.bind f)

instance : Monad (Routine σ) where
  pure := .done
  bind := Routine.bind

theorem bind_done (routine : Routine σ α) : routine.bind .done = routine := by
  induction routine with
  | done result => rfl
  | step change next ih => exact congrArg (step change) (funext ih)
  | pause point next ih => exact congrArg (pause point) ih

theorem bind_assoc {γ : Type} (routine : Routine σ α) (f : α → Routine σ β)
    (g : β → Routine σ γ) :
    (routine.bind f).bind g = routine.bind fun result => (f result).bind g := by
  induction routine with
  | done result => rfl
  | step change next ih => exact congrArg (step change) (funext ih)
  | pause point next ih => exact congrArg (pause point) ih

instance : LawfulMonad (Routine σ) :=
  LawfulMonad.mk' (Routine σ) bind_done (fun _ _ => rfl) bind_assoc

instance : MonadStateOf σ (Routine σ) where
  get := .step id .done
  set state := .step (fun _ => state) fun _ => .done ()
  modifyGet f := .step (fun state => (f state).2) fun state => .done (f state).1

instance : Await (Routine σ) where
  await? := some fun point => .pause point (.done ())

def run : Routine σ α → StateM σ α
  | .done result => pure result
  | .step change next => fun state => (next state).run (change state)
  | .pause _ next => next.run

theorem run_bind (routine : Routine σ α) (f : α → Routine σ β) :
    (routine >>= f).run = routine.run >>= fun result => (f result).run := by
  induction routine with
  | done result => rfl
  | step change next ih => exact funext fun state => congrFun (ih state) (change state)
  | pause point next ih => exact ih

def pausingAt (points : AwaitPoint → Bool) : Routine σ α → Routine σ α
  | .done result => .done result
  | .step change next => .step change fun state => (next state).pausingAt points
  | .pause point next =>
      if points point then .pause point (next.pausingAt points) else next.pausingAt points

-- Dropped at its pause number `pauses`, the first of which has number zero.
def runUntil (pauses : Nat) : Routine σ α → StateM σ (Option α)
  | .done result => pure (some result)
  | .step change next => fun state => (next state).runUntil pauses (change state)
  | .pause _ next =>
      match pauses with
      | 0 => pure none
      | pauses + 1 => next.runUntil pauses

def secondTurn (resume : Routine σ β → Routine σ (α × β)) (waiting : Routine σ α) :
    Routine σ β → Routine σ (α × β)
  | .done result => do
      let other ← waiting
      return (other, result)
  | .step change next => .step change fun state => secondTurn resume waiting (next state)
  | .pause point next => .pause point (resume next)

-- Each advances to its next pause, the first one first.
def both : Routine σ α → Routine σ β → Routine σ (α × β)
  | .done result, second => do
      let other ← second
      return (result, other)
  | .step change next, second => .step change fun state => (next state).both second
  | .pause point next, second =>
      secondTurn (fun second => next.both second) (.pause point next) second

def all : List (Routine σ α) → Routine σ (List α)
  | [] => .done []
  | routine :: others => do
      let (result, results) ← routine.both (all others)
      return result :: results

end Routine

end RequestLayer
