import RequestLayer.Hook
import RequestLayer.Layers.Authority
import RequestLayer.Layers.Fees
import RequestLayer.Layers.Staleness

set_option autoImplicit false

namespace RequestLayer

-- The built-in layers, pairs of functions on what is kept outside, which never pause, and pairs of hooks of
-- one's own.
inductive Layer (ν : Type) where
  | passing
  | authority
  | gas
  | fees (strategy : Option Fees.Strategy)
  -- With the number under which it remembers a block.
  | staleness (check : StaleCheck) (memory : Nat)
  | functions (onRequest : Option (Call → ν → Except Fault Params × ν))
      (onReply : Option (String → Reply → ν → Except Fault Reply × ν))
  | custom (onRequest : Call → Hook ν Params) (onReply : String → Reply → Hook ν Reply)

instance {ν : Type} : Inhabited (Layer ν) := ⟨.passing⟩

namespace Layer

variable {ν : Type} {m : Type → Type} [Monad m] [MonadStateOf (World ν) m]

-- A stale check that remembers no block yet.
def ofStaleCheck (check : StaleCheck) : m (Layer ν) :=
  return .staleness check (← World.number (ν := ν))

def hooks [Await m] : Layer ν → Hooks m
  | .passing => .passing
  | .authority => Authority.hooks
  | .gas => Gas.hooks
  | .fees strategy => Fees.hooks strategy
  | .staleness check memory => check.hooks (World.latestBlock (ν := ν) memory) (World.now (ν := ν))
  | .functions onRequest onReply => {
      onRequest := fun _ call => match onRequest with
        | some change => ExceptT.mk (modifyGetThe (World ν) (World.onOutside (change call)))
        | none => pure call.params
      onReply := fun _ method reply => match onReply with
        | some change => ExceptT.mk (modifyGetThe (World ν) (World.onOutside (change method reply)))
        | none => pure reply }
  | .custom onRequest onReply => {
      onRequest := fun channel call => ExceptT.mk ((onRequest call).run channel)
      onReply := fun channel method reply => ExceptT.mk ((onReply method reply).run channel) }

def functionsDescription (onRequest onReply : Bool) : String :=
  Text.record "FnMiddleware" [("request", toString onRequest), ("response", toString onReply)]

end Layer

end RequestLayer
