import RequestLayer.Caching
import RequestLayer.Layer
import RequestLayer.Retry
import RequestLayer.Stack.Basic

set_option autoImplicit false

namespace RequestLayer

structure Client (ν : Type) where
  -- Of the state that the client can change while it is in use.
  id : Nat
  retry : Option Retry
  stack : Stack (Layer ν)

namespace Client

variable {ν : Type} {m : Type → Type} [Monad m] [MonadStateOf (World ν) m]

def create (caching : Caching) (retry : Option Retry) : m (Client ν) := do
  let id ← World.number (ν := ν)
  World.changeClient (ν := ν) id fun _ => ⟨caching, false⟩
  return ⟨id, retry, .empty⟩

def caching (client : Client ν) : m Caching :=
  return (← World.readClient (ν := ν) client.id).caching

def changeCaching (client : Client ν) (change : Caching → Caching) : m Unit :=
  World.changeClient (ν := ν) client.id fun state => { state with caching := change state.caching }

def changeRule (client : Client ν) (change : Freshness.Rule → Freshness.Rule) : m Unit :=
  client.changeCaching fun caching => { caching with rule := change caching.rule }

variable [Await m]

def channel (client : Client ν) (node : Node ν) : Channel m :=
  match client.retry with
  | some retry => retry.channel (World.sleep (ν := ν)) node.channel
  | none => node.channel

-- The result of a call that goes to the node.
def resolveBlocking (client : Client ν) (node : Node ν) (call : Call) : ExceptT Fault m Json := do
  let reply ←
    Hooks.executeBlocking (client.channel node) (client.stack.items.map Layer.hooks) call
  ExceptT.mk (pure reply.outcome)

def resolveAsync (client : Client ν) (node : Node ν) (call : Call) : ExceptT Fault m Json := do
  let reply ← Hooks.executeAsync (client.channel node) (client.stack.items.map Layer.hooks) call
  ExceptT.mk (pure reply.outcome)

def requestBlocking (client : Client ν) (node : Node ν) (context : Context) (call : Call) :
    ExceptT Fault m Json := do
  let caching ← client.caching
  match caching.fingerprint? context call with
  | none => client.resolveBlocking node call
  | some fingerprint =>
      match ← caching.find? (ν := ν) fingerprint with
      | some response => return response
      | none =>
          let result ← client.resolveBlocking node call
          let caching ← client.caching
          caching.keepBlocking (ν := ν) (m := m) (client.channel node) fingerprint call result
          return result

def requestAsync (client : Client ν) (node : Node ν) (context : Context) (call : Call) :
    ExceptT Fault m Json := do
  let caching ← client.caching
  match caching.fingerprint? context call with
  | none => client.resolveAsync node call
  | some fingerprint =>
      match ← caching.find? (ν := ν) fingerprint with
      | some response => return response
      | none =>
          let result ← client.resolveAsync node call
          let caching ← client.caching
          caching.keepAsync (ν := ν) (m := m) (client.channel node) fingerprint call result
          return result

-- The results of calls sent as one batch. An error in a reply concerns its own call alone.
def requestBatchBlocking (client : Client ν) (node : Node ν) (calls : List Call) :
    ExceptT Fault m (List (Except Fault Json)) := do
  let replies ←
    Hooks.executeBatchBlocking (client.channel node) (client.stack.items.map Layer.hooks) calls
  return replies.map Reply.outcome

def requestBatchAsync (client : Client ν) (node : Node ν) (calls : List Call) :
    ExceptT Fault m (List (Except Fault Json)) := do
  let replies ←
    Hooks.executeBatchAsync (client.channel node) (client.stack.items.map Layer.hooks) calls
  return replies.map Reply.outcome

def resolve (client : Client ν) (node : Node ν) (call : Call) : ExceptT Fault m Json :=
  inMode m (client.resolveBlocking node call) (client.resolveAsync node call)

def request (client : Client ν) (node : Node ν) (context : Context) (call : Call) :
    ExceptT Fault m Json :=
  inMode m (client.requestBlocking node context call) (client.requestAsync node context call)

def requestBatch (client : Client ν) (node : Node ν) (calls : List Call) :
    ExceptT Fault m (List (Except Fault Json)) :=
  inMode m (client.requestBatchBlocking node calls) (client.requestBatchAsync node calls)

end Client

end RequestLayer
