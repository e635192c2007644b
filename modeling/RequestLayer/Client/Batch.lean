import RequestLayer.Client.Basic
import RequestLayer.Routine

set_option autoImplicit false

namespace RequestLayer

structure Batch where
  calls : List Call

namespace Batch

def add (batch : Batch) (call : Call) : Batch := ⟨batch.calls ++ [call]⟩

def size (batch : Batch) : Nat := batch.calls.length

def isEmpty (batch : Batch) : Bool := batch.calls.isEmpty

end Batch

namespace Client

variable {ν : Type} {m : Type → Type} [Monad m] [MonadStateOf (World ν) m]

def setBuilding (client : Client ν) (building : Bool) : m Unit :=
  World.changeClient (ν := ν) client.id fun state => { state with building }

def openBatch (client : Client ν) : ExceptT Fault m Batch := do
  if (← World.readClient (ν := ν) client.id).building then throw .batchInProgress
  client.setBuilding true
  return ⟨[]⟩

def discardBatch (client : Client ν) : m Unit :=
  client.setBuilding false

section Sending

variable [Await m] (client : Client ν) (node : Node ν) (batch : Batch)

-- Whatever comes of it, the next batch can be opened.
def executeBatchBlocking : ExceptT Fault m (List (Except Fault Json)) := ExceptT.mk do
  let outcome ← (client.requestBatchBlocking node batch.calls).run
  client.setBuilding (m := m) false
  return outcome

def executeBatchAsync : ExceptT Fault m (List (Except Fault Json)) := ExceptT.mk do
  let outcome ← (client.requestBatchAsync node batch.calls).run
  client.setBuilding (m := m) false
  return outcome

def executeBatch : ExceptT Fault m (List (Except Fault Json)) :=
  inMode m (client.executeBatchBlocking node batch) (client.executeBatchAsync node batch)

end Sending

-- Given up at one of its pauses, as `Routine.runUntil` counts them.
def executeBatchUntil (client : Client ν) (node : Node ν) (batch : Batch) (pauses : Nat) :
    StateM (World ν) (Option (Except Fault (List (Except Fault Json)))) := do
  let routine : Routine (World ν) (Except Fault (List (Except Fault Json))) :=
    (client.requestBatchAsync node batch.calls).run
  let outcome ← routine.runUntil pauses
  client.setBuilding false
  return outcome

end Client

end RequestLayer
