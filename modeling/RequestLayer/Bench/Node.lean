import RequestLayer.World

set_option autoImplicit false

namespace RequestLayer.Bench

inductive Handler where
  | fixed (reply : Reply)
  | sequence (replies : List Reply)
  | byFirst (cases : List (String × Reply)) (otherwise : Reply)
  | echo
  | concat
  | counter (label : String) (next : Nat)

def label : Json → String
  | .string text => text
  | value => value.compact

def Handler.answer (params : Params) : Handler → Reply × Handler
  | .fixed reply => (reply, .fixed reply)
  | .sequence [] => (⟨none, none, none⟩, .sequence [])
  | .sequence [last] => (last, .sequence [last])
  | .sequence (reply :: rest) => (reply, .sequence rest)
  | .byFirst cases otherwise =>
      let first := (params.head?.map label).getD ""
      ((cases.lookup first).getD otherwise, .byFirst cases otherwise)
  | .echo => (.success (.array params), .echo)
  | .concat => (.success (.string (String.join (params.filterMap Json.string?))), .concat)
  | .counter text next => (.success (.string s!"{text}{next}"), .counter text (next + 1))

structure Script where
  handlers : List (String × Handler) := []
  failing : List (String × Nat) := []
  failingBatches : Nat := 0
  -- For each method, a fault and how many calls end in it without being noted.
  raising : List (String × Fault × Nat) := []
  -- How many replies the next batch has too many, or too few if negative.
  surplus : Int := 0
  calls : List Call := []
  batches : Nat := 0
  notes : List String := []

namespace Script

def assign {α : Type} (name : String) (value : α) : List (String × α) → List (String × α)
  | [] => [(name, value)]
  | entry :: rest =>
      if entry.1 = name then (name, value) :: rest else entry :: assign name value rest

def setHandler (method : String) (handler : Handler) (script : Script) : Script :=
  { script with handlers := assign method handler script.handlers }

def fail (method : String) (times : Nat) (script : Script) : Script :=
  { script with failing := assign method times script.failing }

def raise (method : String) (fault : Fault) (times : Nat) (script : Script) : Script :=
  { script with raising := assign method (fault, times) script.raising }

def noteCall (call : Call) (script : Script) : Script :=
  { script with calls := script.calls ++ [call] }

def note (text : String) (script : Script) : Script :=
  { script with notes := script.notes ++ [text] }

def respond (call : Call) (script : Script) : Reply × Script :=
  let script := script.noteCall call
  match script.handlers.lookup call.method with
  | some handler =>
      let (reply, handler) := handler.answer call.params
      (reply, script.setHandler call.method handler)
  | none => (.failure (some (-32601)) s!"method not found: {call.method}", script)

def send (call : Call) (script : Script) : Except Fault Reply × Script :=
  match script.raising.lookup call.method, script.failing.lookup call.method with
  | some (fault, times + 1), _ => (.error fault, script.raise call.method fault times)
  | _, some (times + 1) =>
      (.error (.transport call.method "connection reset"),
        (script.fail call.method times).noteCall call)
  | _, _ =>
      let (reply, script) := script.respond call
      (.ok reply, script)

def respondAll (place : Nat) (calls : List Call) (script : Script) : List Reply × Script :=
  match calls with
  | [] => ([], script)
  | call :: rest =>
      let (reply, script) := script.respond call
      let (others, script) := script.respondAll (place + 1) rest
      ({ reply with id := some (Json.ofNat place) } :: others, script)

def distorted (surplus : Int) (replies : List Reply) : List Reply :=
  match surplus with
  | .ofNat more => replies ++ List.replicate more (replies.getLast?.getD ⟨none, none, none⟩)
  | .negSucc fewer => replies.take (replies.length - (fewer + 1))

def sendBatch (calls : List Call) (script : Script) : Except Fault (List Reply) × Script :=
  let script := { script with batches := script.batches + 1 }
  match script.failingBatches with
  | times + 1 =>
      (.error (.transport "batch" "connection reset"), { script with failingBatches := times })
  | 0 =>
      let (replies, script) := script.respondAll 0 calls
      (.ok (distorted script.surplus replies), { script with surplus := 0 })

end Script

def node : Node Script where
  send call script := script.send call
  sendBatch calls script := script.sendBatch calls

end RequestLayer.Bench
