import RequestLayer.Channel
import RequestLayer.Text.Description

set_option autoImplicit false

namespace RequestLayer.Wire

def envelope (id : Nat) (call : Call) : Json :=
  .object [("id", Json.ofNat id), ("jsonrpc", .string "2.0"), ("method", .string call.method),
    ("params", .array call.params)]

def batchEnvelopes (firstId : Nat) : List Call → List Json
  | [] => []
  | call :: rest => envelope firstId call :: batchEnvelopes (firstId + 1) rest

def batchBody (firstId : Nat) (calls : List Call) : Json :=
  .array (batchEnvelopes firstId calls)

def readReply (body : Json) : Except Fault Reply :=
  (Reply.ofJson body).mapError .ofMismatch

def place? (firstId expected : Nat) (reply : Reply) : Option Nat := do
  let id ← (← reply.id).word?
  if firstId ≤ id ∧ id - firstId < expected then some (id - firstId) else none

def putReply (firstId expected : Nat) (places : List (Option Reply)) (item : Json) :
    Except Fault (List (Option Reply)) := do
  let reply ← readReply item
  match place? firstId expected reply with
  | some place => return places.set place (some reply)
  | none =>
      let id := Text.optional (reply.id.map Json.description)
      .error (.invalidResponse s!"unexpected batch response id: {id}")

def filled (number : Nat) : List (Option Reply) → Except Fault (List Reply)
  | [] => .ok []
  | none :: _ => .error (.invalidResponse s!"missing batch response {number}")
  | some reply :: rest => do
      let others ← filled (number + 1) rest
      return reply :: others

-- A node answers a batch that it rejects as a whole with one reply.
def orderedReplies (firstId expected : Nat) (body : Json) : Except Fault (List Reply) :=
  match body with
  | .array items => do
      if items.length ≠ expected then
        throw (.invalidResponse
          s!"batch returned {items.length} responses for {expected} requests")
      let places ← items.foldlM (putReply firstId expected) (List.replicate expected none)
      filled 0 places
  | body => do
      let reply ← readReply body
      match reply.error with
      | some error => .error error.toFault
      | none => .error (.invalidResponse "batch reply is not an array")

end RequestLayer.Wire
