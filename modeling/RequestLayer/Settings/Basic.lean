import RequestLayer.Client.Basic

set_option autoImplicit false

namespace RequestLayer

structure RetrySettings where
  retries : Nat := 5
  backoffMilliseconds : Nat := 125
  methods : Option (List String) := none
deriving DecidableEq, Repr

structure Settings where
  cacheEnabled : Bool := false
  cacheCapacity : Option Nat := none
  threshold : Option Freshness.Threshold := some .finalized
  cacheable : Option (List String) := none
  allowed : List String := []
  retry : RetrySettings := {}
  -- In seconds.
  staleAfter : Option Nat := none
deriving DecidableEq, Repr

def isMethodName (text : String) : Bool :=
  match text.toList with
  | [] => false
  | c :: rest => c != '_' && (c :: rest).all fun c => c.isAlphanum || c == '_'

namespace Settings

def retryPlan (settings : Settings) : Except Fault Retry :=
  Retry.create settings.retry.retries (.ofMilliseconds settings.retry.backoffMilliseconds)
    (settings.retry.methods.getD Retry.standardMethods)

def staleCheck (settings : Settings) : Except Fault (Option StaleCheck) :=
  settings.staleAfter.mapM fun seconds => StaleCheck.create (.ofSeconds seconds)

def requireNames (setting : String) (names : List String) : Except Fault Unit :=
  match names.find? fun name => !isMethodName name with
  | some name =>
      .error (.invalidConfiguration (s!"invalid method name in {setting}: " ++ Text.quoted name))
  | none => .ok ()

def validate (settings : Settings) : Except Fault Unit := do
  if settings.cacheCapacity = some 0 then
    throw (.invalidConfiguration "cache_capacity must be positive")
  requireNames "cache_allow_list" settings.allowed
  requireNames "cacheable_methods" (settings.cacheable.getD [])
  discard settings.retryPlan
  discard settings.staleCheck

def capacity (settings : Settings) : Except Fault (Option Capacity) :=
  settings.cacheCapacity.mapM fun size =>
    match Capacity.ofNat? size with
    | some capacity => .ok capacity
    | none => .error (.invalidConfiguration "cache_capacity must be positive")

def rule (settings : Settings) : Freshness.Rule :=
  let standard := Freshness.Rule.standard settings.threshold
  let base := match settings.cacheable with
    | some methods => standard.setCacheable methods
    | none => standard
  settings.allowed.foldl (fun rule method => rule.allow method) base

variable {ν : Type} {m : Type → Type} [Monad m] [MonadStateOf (World ν) m]

def caching (settings : Settings) : ExceptT Fault m Caching := do
  if settings.cacheEnabled then
    let capacity ← ExceptT.mk (pure settings.capacity)
    let store ← World.openStore (ν := ν) capacity
    return ⟨some store, settings.rule⟩
  else return ⟨none, settings.rule⟩

def staleCheckName : String := "stalecheck"

def client (settings : Settings) : ExceptT Fault m (Client ν) := do
  ExceptT.mk (pure settings.validate)
  let retry ← ExceptT.mk (pure settings.retryPlan)
  let caching ← settings.caching (ν := ν)
  let client ← Client.create (ν := ν) caching (some retry)
  match ← ExceptT.mk (pure settings.staleCheck) with
  | none => return client
  | some check =>
      let layer ← Layer.ofStaleCheck (ν := ν) check
      let (added, stack) := (Stack.add staleCheckName layer).run client.stack
      ExceptT.mk (pure added)
      return { client with stack }

end Settings

end RequestLayer
