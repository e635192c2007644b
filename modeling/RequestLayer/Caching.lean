import RequestLayer.World

set_option autoImplicit false

namespace RequestLayer.Caching

def disabled (threshold : Option Freshness.Threshold) : Caching :=
  ⟨none, .standard threshold⟩

def enabled (store : Nat) (threshold : Option Freshness.Threshold) : Caching :=
  ⟨some store, .standard threshold⟩

def isEnabled (caching : Caching) : Bool := caching.store.isSome

def fingerprint? (caching : Caching) (context : Context) (call : Call) : Option Fingerprint :=
  if caching.isEnabled && caching.rule.isCacheable call.method then
    some (.ofCall context call.method call.params)
  else none

variable {ν : Type} {m : Type → Type} [Monad m] [MonadStateOf (World ν) m]

def find? (caching : Caching) (fingerprint : Fingerprint) : m (Option Json) :=
  match caching.store with
  | some store => return (← World.readStore (ν := ν) store).get? fingerprint
  | none => return none

def keepBlocking (caching : Caching) (channel : Channel m) (fingerprint : Fingerprint) (call : Call)
    (result : Json) : m Unit := do
  if ← caching.rule.allowsBlocking channel call (some result) then
    match caching.store with
    | some store => discard (World.writeStore (ν := ν) store fingerprint result)
    | none => return

def keepAsync (caching : Caching) (channel : Channel m) (fingerprint : Fingerprint) (call : Call)
    (result : Json) : m Unit := do
  if ← caching.rule.allowsAsync channel call (some result) then
    match caching.store with
    | some store => discard (World.writeStore (ν := ν) store fingerprint result)
    | none => return

-- Stores a result if the rule allows it.
def keep [Await m] (caching : Caching) (channel : Channel m) (fingerprint : Fingerprint)
    (call : Call) (result : Json) : m Unit :=
  inMode m (caching.keepBlocking (ν := ν) channel fingerprint call result)
    (caching.keepAsync (ν := ν) channel fingerprint call result)

end RequestLayer.Caching
