import RequestLayer.Layers.Gas
import RequestLayer.Text.Description

set_option autoImplicit false

namespace RequestLayer.Fees

abbrev Strategy := Fields → Option Nat

def hasDynamicFee (fields : Fields) : Bool :=
  Fields.has fields "maxFeePerGas" || Fields.has fields "maxPriorityFeePerGas"

def priced (strategy : Option Strategy) (fields : Fields) : Fields :=
  match strategy.bind (· fields) with
  | some price =>
      if Fields.has fields "gasPrice" || hasDynamicFee fields then fields
      else Fields.insert "gasPrice" (Quantity.toJson price) fields
  | none => fields

def fee (name : String) (value : Json) : Except Fault Nat :=
  match Quantity.ofJson? value with
  | some number => .ok number
  | none => .error (.invalidTransaction (s!"invalid {name}: " ++ value.compact))

def missingMaximum (fields : Fields) : Except Fault (Option Nat) := do
  if Fields.has fields "gasPrice" && hasDynamicFee fields then throw .mixedFees
  match fields.lookup "maxFeePerGas", fields.lookup "maxPriorityFeePerGas" with
  | some maximum, some priority =>
      let maximum ← fee "maxFeePerGas" maximum
      let priority ← fee "maxPriorityFeePerGas" priority
      if maximum < priority then
        throw (.invalidTransaction "maxFeePerGas must be >= maxPriorityFeePerGas")
      return none
  | none, some priority => return some (← fee "maxPriorityFeePerGas" priority)
  | some _, none =>
      throw (.invalidTransaction "maxPriorityFeePerGas must be defined in a 1559 transaction")
  | none, none => return none

def maximum (priority : Nat) (latest : Except Fault Reply) : Except Fault Nat := do
  let header ← Header.ofResult (← (← latest).outcome)
  let some baseFee := header.baseFee
    | .error (.invalidResponse "latest block has no baseFeePerGas")
  return min (priority + min (2 * baseFee) Quantity.greatest) Quantity.greatest

section Hooks

variable {m : Type → Type} [Monad m] (strategy : Option Strategy)

def fillBlocking (channel : Channel m) (call : Call) : ExceptT Fault m Params := do
  match call.params with
  | .object fields :: rest =>
      if call.method ≠ sendTransaction then return call.params
      let fields := priced strategy fields
      match ← ExceptT.mk (pure (missingMaximum fields)) with
      | none => return .object fields :: rest
      | some priority =>
          let latest ← ExceptT.lift (channel.send (.header .latest)).run
          let fee ← ExceptT.mk (pure (maximum priority latest))
          return .object (Fields.insert "maxFeePerGas" (Quantity.toJson fee) fields) :: rest
  | _ => return call.params

def fillAsync (channel : Channel m) (call : Call) : ExceptT Fault m Params := do
  match call.params with
  | .object fields :: rest =>
      if call.method ≠ sendTransaction then return call.params
      let fields := priced strategy fields
      match ← ExceptT.mk (pure (missingMaximum fields)) with
      | none => return .object fields :: rest
      | some priority =>
          let latest ← ExceptT.lift (channel.send (.header .latest)).run
          let fee ← ExceptT.mk (pure (maximum priority latest))
          return .object (Fields.insert "maxFeePerGas" (Quantity.toJson fee) fields) :: rest
  | _ => return call.params

variable [Await m]

def fill (channel : Channel m) (call : Call) : ExceptT Fault m Params :=
  inMode m (fillBlocking strategy channel call) (fillAsync strategy channel call)

def hooks : Hooks m :=
  { Hooks.passing with onRequest := fill strategy }

end Hooks

def description (strategy : Option Strategy) : String :=
  Text.record "GasPriceStrategyMiddleware" [("strategy", toString strategy.isSome)]

end RequestLayer.Fees
