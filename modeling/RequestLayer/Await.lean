set_option autoImplicit false

namespace RequestLayer

-- What a suspendable request is about to do: run a layer's hook, send to the node, or wait before another
-- attempt.
inductive AwaitPoint where
  | hook
  | call
  | delay
deriving DecidableEq, Repr

-- A suspendable computation can be set aside at such points, a blocking one cannot.
class Await (m : Type → Type) where
  await? : Option (AwaitPoint → m Unit)

-- What requests do is written twice, for blocking and for suspendable ones, and the monad tells which it is.
def inMode (m : Type → Type) [Await m] {α : Type} (blocking suspendable : α) : α :=
  match (Await.await? : Option (AwaitPoint → m Unit)) with
  | none => blocking
  | some _ => suspendable

def await {m : Type → Type} [Monad m] [Await m] (point : AwaitPoint) : m Unit :=
  match (Await.await? : Option (AwaitPoint → m Unit)) with
  | none => pure ()
  | some wait => wait point

instance {m : Type → Type} [Monad m] [Await m] {ε : Type} : Await (ExceptT ε m) where
  await? := (Await.await? : Option (AwaitPoint → m Unit)).map fun wait point =>
    ExceptT.lift (wait point)

instance {σ : Type} : Await (StateM σ) where
  await? := none

-- Two copies do the same as one whole, the blocking one where nothing can be set aside.
theorem inMode_eq {m : Type → Type} [Await m] {α : Type} (blocking suspendable whole : α)
    (passes : (Await.await? : Option (AwaitPoint → m Unit)) = none → blocking = whole)
    (waits : suspendable = whole) : inMode m blocking suspendable = whole := by
  unfold inMode
  cases mode : (Await.await? : Option (AwaitPoint → m Unit)) with
  | none => exact passes mode
  | some wait => exact waits

section Points

variable {m : Type → Type} [Monad m] [LawfulMonad m] [Await m] (point : AwaitPoint)

omit [LawfulMonad m] in
theorem await_passes (blocking : (Await.await? : Option (AwaitPoint → m Unit)) = none) :
    (await point : m Unit) = pure () := by
  rw [await, blocking]

theorem await_lifted {ε : Type} : (await point : ExceptT ε m Unit) = ExceptT.lift (await point) := by
  have inner : (Await.await? : Option (AwaitPoint → ExceptT ε m Unit)) =
      (Await.await? : Option (AwaitPoint → m Unit)).map fun wait point =>
        ExceptT.lift (wait point) := rfl
  unfold await
  rw [inner]
  cases (Await.await? : Option (AwaitPoint → m Unit)) with
  | none => exact ExceptT.ext (by simp)
  | some wait => rfl

-- Where nothing can be set aside, code with the points is code without them.
theorem await_then {ε α : Type} (blocking : (Await.await? : Option (AwaitPoint → m Unit)) = none)
    (next : ExceptT ε m α) : (await point >>= fun _ => next : ExceptT ε m α) = next := by
  rw [await_lifted, await_passes point blocking]
  exact ExceptT.ext (by simp)

end Points

end RequestLayer
