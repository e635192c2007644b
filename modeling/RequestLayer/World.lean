import RequestLayer.Await
import RequestLayer.Fingerprint
import RequestLayer.Freshness.Rule
import RequestLayer.Slots
import RequestLayer.Store

set_option autoImplicit false

namespace RequestLayer

abbrev ResponseStore := Store Fingerprint Json

structure Caching where
  store : Option Nat
  rule : Freshness.Rule
deriving Inhabited

structure ClientState where
  caching : Caching
  building : Bool
deriving Inhabited

-- By its successive readings in seconds.
structure Clock where
  readings : Nat → Nat
  taken : Nat

def Clock.still (now : Nat) : Clock := ⟨fun _ => now, 0⟩

structure World (ν : Type) where
  outside : ν
  stores : Slots ResponseStore
  clients : Slots ClientState
  latest : Slots (Option Header)
  clock : Clock
  slept : List Delay
  -- The next number for a store, a client or a remembered block.
  free : Nat

structure Node (ν : Type) where
  send : Call → ν → Except Fault Reply × ν
  sendBatch : List Call → ν → Except Fault (List Reply) × ν

namespace World

variable {ν : Type}

def start (outside : ν) (clock : Clock) : World ν :=
  ⟨outside, .empty, .empty, .empty, clock, [], 0⟩

def onOutside {α : Type} (change : ν → α × ν) (world : World ν) : α × World ν :=
  let (result, outside) := change world.outside
  (result, { world with outside })

def tick (world : World ν) : Nat × World ν :=
  let clock := world.clock
  (clock.readings clock.taken, { world with clock := { clock with taken := clock.taken + 1 } })

variable {m : Type → Type} [Monad m] [MonadStateOf (World ν) m]

def now : m Nat :=
  modifyGetThe (World ν) tick

def sleep (delay : Delay) : m Unit :=
  modifyThe (World ν) fun world => { world with slept := world.slept ++ [delay] }

def number : m Nat :=
  modifyGetThe (World ν) fun world => (world.free, { world with free := world.free + 1 })

def openStore (capacity : Option Capacity) : m Nat := do
  let store ← number (ν := ν)
  modifyThe (World ν) fun world =>
    { world with stores := world.stores.write store (.empty capacity) }
  return store

def readStore (store : Nat) : m ResponseStore :=
  return (← getThe (World ν)).stores.read store

def writeStore (store : Nat) (fingerprint : Fingerprint) (response : Json) :
    m (List (Fingerprint × Json)) :=
  modifyGetThe (World ν) fun world =>
    let (written, dropped) := (world.stores.read store).insert fingerprint response
    (dropped, { world with stores := world.stores.write store written })

def readClient (client : Nat) : m ClientState :=
  return (← getThe (World ν)).clients.read client

def changeClient (client : Nat) (change : ClientState → ClientState) : m Unit :=
  modifyThe (World ν) fun world =>
    { world with clients := world.clients.write client (change (world.clients.read client)) }

def latestBlock (slot : Nat) : Cell m (Option Header) where
  read := return (← getThe (World ν)).latest.read slot
  write header := modifyThe (World ν) fun world =>
    { world with latest := world.latest.write slot header }

end World

def Node.channel {ν : Type} {m : Type → Type} [Monad m] [Await m] [MonadStateOf (World ν) m]
    (node : Node ν) : Channel m where
  send call := ExceptT.mk do
    await .call
    modifyGetThe (World ν) (World.onOutside (node.send call))
  sendBatch calls := ExceptT.mk do
    await .call
    modifyGetThe (World ν) (World.onOutside (node.sendBatch calls))

end RequestLayer
