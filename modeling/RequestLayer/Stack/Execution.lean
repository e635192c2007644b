import RequestLayer.Await
import RequestLayer.Channel

set_option autoImplicit false

namespace RequestLayer

-- Hooks may make calls of their own on the channel; these go past all layers.
structure Hooks (m : Type → Type) where
  onRequest : Channel m → Call → ExceptT Fault m Params
  onReply : Channel m → String → Reply → ExceptT Fault m Reply

def miscount (got expected : Nat) : Fault :=
  .invalidResponse s!"batch returned {got} responses for {expected} requests"

namespace Hooks

variable {m : Type → Type} [Monad m]

def passing : Hooks m where
  onRequest _ call := pure call.params
  onReply _ _ reply := pure reply

variable (channel : Channel m) (layers : List (Hooks m))

def outboundBlocking (call : Call) : ExceptT Fault m Call :=
  layers.foldlM (fun call layer => do
    return { call with params := ← layer.onRequest channel call }) call

def inboundBlocking (method : String) (reply : Reply) : ExceptT Fault m Reply :=
  layers.reverse.foldlM (fun reply layer => layer.onReply channel method reply) reply

def executeBlocking (call : Call) : ExceptT Fault m Reply := do
  let sent ← outboundBlocking channel layers call
  let reply ← channel.send sent
  inboundBlocking channel layers call.method reply

-- The replies are mapped one after the other, up to the first fault.
def executeBatchBlocking (calls : List Call) : ExceptT Fault m (List Reply) := do
  let mut sent := #[]
  for call in calls do
    sent := sent.push (← outboundBlocking channel layers call)
  let replies ← channel.sendBatch sent.toList
  if replies.length ≠ calls.length then throw (miscount replies.length calls.length)
  (calls.zip replies).mapM fun (call, reply) => inboundBlocking channel layers call.method reply

variable [Await m]

def outboundAsync (call : Call) : ExceptT Fault m Call :=
  layers.foldlM (fun call layer => do
    await .hook
    return { call with params := ← layer.onRequest channel call }) call

def inboundAsync (method : String) (reply : Reply) : ExceptT Fault m Reply :=
  layers.reverse.foldlM (fun reply layer => do
    await .hook
    layer.onReply channel method reply) reply

def executeAsync (call : Call) : ExceptT Fault m Reply := do
  let sent ← outboundAsync channel layers call
  let reply ← channel.send sent
  inboundAsync channel layers call.method reply

-- The replies are collected in a loop.
def executeBatchAsync (calls : List Call) : ExceptT Fault m (List Reply) := do
  let mut sent := #[]
  for call in calls do
    sent := sent.push (← outboundAsync channel layers call)
  let replies ← channel.sendBatch sent.toList
  if replies.length ≠ calls.length then throw (miscount replies.length calls.length)
  let mut out := #[]
  for (call, reply) in calls.zip replies do
    out := out.push (← inboundAsync channel layers call.method reply)
  return out.toList

def outbound (call : Call) : ExceptT Fault m Call :=
  inMode m (outboundBlocking channel layers call) (outboundAsync channel layers call)

def inbound (method : String) (reply : Reply) : ExceptT Fault m Reply :=
  inMode m (inboundBlocking channel layers method reply) (inboundAsync channel layers method reply)

def execute (call : Call) : ExceptT Fault m Reply :=
  inMode m (executeBlocking channel layers call) (executeAsync channel layers call)

def executeBatch (calls : List Call) : ExceptT Fault m (List Reply) :=
  inMode m (executeBatchBlocking channel layers calls) (executeBatchAsync channel layers calls)

end Hooks

end RequestLayer
