import RequestLayer.Json.Reader
import RequestLayer.Wire.Envelope
import RequestLayer.World

set_option autoImplicit false

namespace RequestLayer.Wire

inductive Answer where
  | body (status : Nat) (text : String)
  | closed

abbrev Server (ε : Type) := String → ε → Answer × ε

def unreachable {ε : Type} : Server ε :=
  fun _ state => (.closed, state)

structure Recording where
  answers : List Answer
  posted : List String

def recorded : Server Recording := fun body state =>
  let answer := state.answers.headD (.body 500 "")
  (answer, ⟨state.answers.drop 1, state.posted ++ [body]⟩)

-- Only the client and server errors, 400 to 599, are faults. A status past them is read as any other.
def Answer.json (label : String) : Answer → Except Fault Json
  | .closed => .error (.transport label "no answer")
  | .body status text =>
      if 400 ≤ status ∧ status < 600 then .error (.transport label s!"status {status}")
      else (Json.read text).mapError fun _ => .transport label "the answer is not JSON"

-- A batch takes as many ids as it has calls, also when it fails.
structure Session (ε : Type) where
  nextId : Nat
  server : ε

namespace Session

variable {ε : Type}

def start (server : ε) : Session ε := ⟨1, server⟩

-- Ids are words, so they start again after the last one.
def take (count : Nat) (session : Session ε) : Nat × Session ε :=
  (session.nextId, { session with nextId := (session.nextId + count) % Nat.pow 2 64 })

def post (server : Server ε) (label : String) (body : Json) (session : Session ε) :
    Except Fault Json × Session ε :=
  let (answer, kept) := server body.compact session.server
  (answer.json label, { session with server := kept })

end Session

def node {ε : Type} (server : Server ε) : Node (Session ε) where
  send call session :=
    let (id, session) := session.take 1
    let (body, session) := session.post server call.method (envelope id call)
    (body.bind readReply, session)
  sendBatch calls session :=
    let (firstId, session) := session.take calls.length
    let (body, session) := session.post server "batch" (batchBody firstId calls)
    (body.bind (orderedReplies firstId calls.length), session)

def description (suspendable : Bool) (url : String) : String :=
  Text.record (if suspendable then "AsyncHttpTransport" else "HttpTransport")
    [("url", Text.quoted url)]

end RequestLayer.Wire
