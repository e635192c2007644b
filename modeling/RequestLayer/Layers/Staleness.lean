import RequestLayer.Chain.Header
import RequestLayer.Slots
import RequestLayer.Stack.Execution

set_option autoImplicit false

namespace RequestLayer

structure StaleCheck where
  allowed : Delay
  skipped : List String
deriving DecidableEq, Repr

namespace StaleCheck

def create (allowed : Delay) : Except Fault StaleCheck :=
  if allowed.isZero then
    .error (.invalidConfiguration "stale check needs a positive allowable delay")
  else .ok ⟨allowed, ["eth_getBlockByNumber"]⟩

def covers (check : StaleCheck) (timestamp now : Nat) : Bool :=
  now - timestamp ≤ check.allowed.seconds

variable {m : Type → Type} [Monad m]

-- A block without a timestamp is never fresh, and the clock is not read.
def isFresh (check : StaleCheck) (now : m Nat) (header : Header) : m Bool := do
  match header.timestamp with
  | some timestamp => return check.covers timestamp (← now)
  | none => return false

def isDue (check : StaleCheck) (latest : Cell m (Option Header)) (now : m Nat) (method : String) :
    m Bool := do
  if method ∈ check.skipped then return false
  match ← latest.read with
  | some header => return !(← check.isFresh now header)
  | none => return true

def accept (check : StaleCheck) (latest : Cell m (Option Header)) (now : m Nat)
    (reply : Reply) : ExceptT Fault m Unit := do
  let header ← ExceptT.mk (pure (do Header.ofResult (← reply.outcome)))
  if ← ExceptT.lift (check.isFresh now header) then ExceptT.lift (latest.write (some header))
  else throw (.staleChain header.number (header.timestamp.getD 0) check.allowed)

def guardBlocking (check : StaleCheck) (latest : Cell m (Option Header)) (now : m Nat)
    (channel : Channel m) (call : Call) : ExceptT Fault m Params := do
  if ← ExceptT.lift (check.isDue latest now call.method) then
    check.accept latest now (← channel.send (.header .latest))
  return call.params

def guardAsync (check : StaleCheck) (latest : Cell m (Option Header)) (now : m Nat)
    (channel : Channel m) (call : Call) : ExceptT Fault m Params := do
  if ← ExceptT.lift (check.isDue latest now call.method) then
    check.accept latest now (← channel.send (.header .latest))
  return call.params

variable [Await m]

def guard (check : StaleCheck) (latest : Cell m (Option Header)) (now : m Nat)
    (channel : Channel m) (call : Call) : ExceptT Fault m Params :=
  inMode m (check.guardBlocking latest now channel call) (check.guardAsync latest now channel call)

def hooks (check : StaleCheck) (latest : Cell m (Option Header)) (now : m Nat) : Hooks m :=
  { Hooks.passing with onRequest := check.guard latest now }

end StaleCheck

end RequestLayer
