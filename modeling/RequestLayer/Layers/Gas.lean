import RequestLayer.Chain.Header
import RequestLayer.Stack.Execution

set_option autoImplicit false

namespace RequestLayer

def sendTransaction : String := "eth_sendTransaction"

def Quantity.greatest : Nat := Nat.pow 2 64 - 1

namespace Gas

def buffer : Nat := 100000

def transaction? (call : Call) : Option Fields :=
  match call.params with
  | .object fields :: _ =>
      if call.method = sendTransaction ∧ ¬ Fields.has fields "gas" then some fields else none
  | _ => none

def buffered (estimate latest : Except Fault Reply) : Except Fault Nat := do
  let estimated ← (← estimate).outcome
  let some estimated := Quantity.ofJson? estimated
    | .error (.invalidResponse ("invalid gas estimate: " ++ estimated.compact))
  let header ← Header.ofResult (← (← latest).outcome)
  let some limit := header.gasLimit
    | .error (.invalidResponse "latest block has no gasLimit")
  if limit < estimated then .error (.gasLimitExceeded estimated limit)
  else return min (min (estimated + buffer) Quantity.greatest) limit

def withField (params : Params) (key : String) (value : Json) : Params :=
  match params with
  | .object fields :: rest => .object (Fields.insert key value fields) :: rest
  | _ => params

variable {m : Type → Type} [Monad m]

-- Both calls are made before either answer is looked at.
def fillBlocking (channel : Channel m) (call : Call) : ExceptT Fault m Params := do
  match transaction? call with
  | none => return call.params
  | some fields =>
      let estimate ← ExceptT.lift (channel.send ⟨"eth_estimateGas", [.object fields]⟩).run
      let latest ← ExceptT.lift (channel.send (.header .latest)).run
      let gas ← ExceptT.mk (pure (buffered estimate latest))
      return withField call.params "gas" (Quantity.toJson gas)

def fillAsync (channel : Channel m) (call : Call) : ExceptT Fault m Params := do
  match transaction? call with
  | none => return call.params
  | some fields =>
      let estimate ← ExceptT.lift (channel.send ⟨"eth_estimateGas", [.object fields]⟩).run
      let latest ← ExceptT.lift (channel.send (.header .latest)).run
      let gas ← ExceptT.mk (pure (buffered estimate latest))
      return withField call.params "gas" (Quantity.toJson gas)

variable [Await m]

def fill (channel : Channel m) (call : Call) : ExceptT Fault m Params :=
  inMode m (fillBlocking channel call) (fillAsync channel call)

def hooks : Hooks m :=
  { Hooks.passing with onRequest := fill }

end Gas

end RequestLayer
