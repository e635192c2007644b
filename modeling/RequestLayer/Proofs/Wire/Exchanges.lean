import Mathlib.Data.List.Induction
import RequestLayer.Proofs.Interleaving.Routines
import RequestLayer.Wire.Node

set_option autoImplicit false

namespace RequestLayer.Wire

inductive Request where
  | single (call : Call)
  | batch (calls : List Call)

namespace Request

def calls : Request → List Call
  | .single call => [call]
  | .batch calls => calls

def label : Request → String
  | .single call => call.method
  | .batch _ => "batch"

def body (firstId : Nat) : Request → Json
  | .single call => envelope firstId call
  | .batch calls => batchBody firstId calls

def envelopes (firstId : Nat) (request : Request) : List Json :=
  match request with
  | .single _ => [request.body firstId]
  | .batch _ => (request.body firstId).items

-- The replies in an answer, those to a batch in the order of the ids from the first one on.
def read (firstId : Nat) : Request → Json → Except Fault (List Reply)
  | .single _, answer => (readReply answer).map fun reply => [reply]
  | .batch calls, answer => orderedReplies firstId calls.length answer

end Request

structure Exchange where
  request : Request
  firstId : Nat
  outcome : Option (Except Fault (List Reply))

namespace Exchange

def underway (request : Request) (firstId : Nat) : Exchange := ⟨request, firstId, none⟩

def size (exchange : Exchange) : Nat := exchange.request.calls.length

def envelopes (exchange : Exchange) : List Json := exchange.request.envelopes exchange.firstId

end Exchange

-- The way to a server, and the exchanges on it in the order in which they have taken their ids.
structure Line (ε : Type) where
  session : Session ε
  exchanges : List Exchange

namespace Line

variable {ε : Type}

def start (server : ε) : Line ε := ⟨.start server, []⟩

def begun (request : Request) (line : Line ε) : Nat × Line ε :=
  let (firstId, session) := line.session.take request.calls.length
  (line.exchanges.length, ⟨session, line.exchanges ++ [.underway request firstId]⟩)

-- The body of an exchange is posted and the answer read, by the same first id.
def ended (server : Server ε) (number : Nat) (line : Line ε) :
    Except Fault (List Reply) × Line ε :=
  match line.exchanges[number]? with
  | some exchange =>
      let (answer, session) := line.session.post server exchange.request.label
        (exchange.request.body exchange.firstId)
      let outcome := answer.bind (exchange.request.read exchange.firstId)
      (outcome, ⟨session, line.exchanges.set number { exchange with outcome := some outcome }⟩)
  | none => (.error (.invalidResponse "no such exchange"), line)

def envelopes (line : Line ε) : List Json := line.exchanges.flatMap Exchange.envelopes

end Line

section Requests

variable {ε : Type} (server : Server ε)

-- One attempt at a request. Others may come in before it begins, before its body is posted and after.
def attempt (request : Request) : ExceptT Fault (Routine (Line ε)) (List Reply) := ExceptT.mk do
  let number ← modifyGet (Line.begun request)
  await .call
  modifyGet (Line.ended server number)

structure Sending where
  request : Request
  more : Nat

def Sending.routine (sending : Sending) : Routine (Line ε) (Except Fault (List Reply)) :=
  (Retry.repeated (pure ()) (attempt server sending.request) sending.more).run

theorem attempt_run (request : Request) (line : Line ε) :
    (attempt server request).run.run line =
      (line.begun request).2.ended server (line.begun request).1 := rfl

theorem begun_ended (request : Request) (line : Line ε) :
    let (firstId, taken) := line.session.take request.calls.length
    let (answer, session) := taken.post server request.label (request.body firstId)
    let (outcome, after) := (line.begun request).2.ended server (line.begun request).1
    outcome = answer.bind (request.read firstId) ∧ after.session = session := by
  have last : (line.begun request).2.exchanges[(line.begun request).1]? =
      some ⟨request, line.session.nextId, none⟩ := List.getElem?_concat_length
  dsimp only
  unfold Line.ended
  rw [last]
  exact ⟨rfl, rfl⟩

-- With nobody in between, an attempt is what the node behind the server does.
theorem single_alone (call : Call) (line : Line ε) :
    let (outcome, after) := (attempt server (.single call)).run.run line
    let (reply, session) := (node server).send call line.session
    outcome = reply.map (fun reply => [reply]) ∧ after.session = session := by
  obtain ⟨outcome, session⟩ := begun_ended server (.single call) line
  have mapped (answer : Except Fault Json) :
      (answer.bind fun body => (readReply body).map fun reply => [reply]) =
        (answer.bind readReply).map fun reply => [reply] := by cases answer <;> rfl
  rw [attempt_run]
  exact ⟨outcome.trans (mapped _), session⟩

theorem batch_alone (calls : List Call) (line : Line ε) :
    let (outcome, after) := (attempt server (.batch calls)).run.run line
    (outcome, after.session) = (node server).sendBatch calls line.session := by
  obtain ⟨outcome, session⟩ := begun_ended server (.batch calls) line
  rw [attempt_run]
  exact Prod.ext outcome session

inductive Moves (line : Line ε) : Line ε → Prop
  | begins (request : Request) : Moves line (line.begun request).2
  | ends (number : Nat) : Moves line (line.ended server number).2

theorem moves_parallel :
    Parallel (Having fun α (routine : Routine (Line ε) α) => routine.Within (Moves server)) :=
  having_parallel _
    { value := fun _ _ => trivial
      sequence := fun _ _ => Routine.bind_within (Moves server)
      pause := fun _ => trivial }

theorem sending_moves (sending : Sending) : (sending.routine server).Within (Moves server) :=
  ((moves_parallel server).repeated_agree (pure ()) (pure ()) (attempt server sending.request)
    (attempt server sending.request) sending.more ⟨rfl, trivial⟩
    ⟨rfl, fun _ => ⟨.begins sending.request, fun _ => ⟨.ends _, trivial⟩⟩⟩).2

end Requests

structure Traffic (ε : Type) where
  line : Line ε
  left : List (Option (Routine (Line ε) (Except Fault (List Reply))))

inductive Turn (ε : Type) where
  | advance (index : Nat)
  | drop (index : Nat)
  | serve (change : ε → ε)

def Line.served {ε : Type} (change : ε → ε) (line : Line ε) : Line ε :=
  { line with session := { line.session with server := change line.session.server } }

namespace Traffic

variable {ε : Type}

def issue (server : Server ε) (initial : ε) (sendings : List Sending) : Traffic ε :=
  ⟨.start initial, sendings.map fun sending => some (sending.routine server)⟩

def step (traffic : Traffic ε) : Turn ε → Traffic ε
  | .advance index =>
      match traffic.left[index]? with
      | some (some routine) =>
          let (rest, line) := routine.advance traffic.line
          ⟨line, traffic.left.set index (some rest)⟩
      | _ => traffic
  | .drop index => { traffic with left := traffic.left.set index none }
  | .serve change => { traffic with line := traffic.line.served change }

def run (traffic : Traffic ε) (turns : List (Turn ε)) : Traffic ε := turns.foldl step traffic

end Traffic

section Runs

variable {ε : Type} (server : Server ε) (holds : Line ε → Prop)
  (moved : ∀ line next, Moves server line next → holds line → holds next)
  (served : ∀ line change, holds line → holds (line.served change))

include moved

theorem advance_holds (routine : Routine (Line ε) (Except Fault (List Reply)))
    (within : routine.Within (Moves server)) (line : Line ε) (before : holds line) :
    holds (routine.advance line).2 ∧ (routine.advance line).1.Within (Moves server) := by
  cases routine with
  | done result => exact ⟨before, trivial⟩
  | step change next => exact ⟨moved _ _ (within line).1 before, (within line).2⟩
  | pause point next => exact ⟨before, within⟩

include served

theorem step_holds (traffic : Traffic ε) (turn : Turn ε)
    (within : ∀ routine, some routine ∈ traffic.left → routine.Within (Moves server))
    (before : holds traffic.line) :
    holds (traffic.step turn).line ∧
      ∀ routine, some routine ∈ (traffic.step turn).left → routine.Within (Moves server) := by
  cases turn with
  | advance index =>
      unfold Traffic.step
      dsimp only
      split
      · rename_i routine found
        have advanced := advance_holds server holds moved routine
          (within routine (List.mem_of_getElem? found)) traffic.line before
        refine ⟨advanced.1, ?_⟩
        intro other member
        rcases List.mem_or_eq_of_mem_set member with old | same
        · exact within other old
        · cases same
          exact advanced.2
      · exact ⟨before, within⟩
  | drop index =>
      refine ⟨before, ?_⟩
      intro other member
      rcases List.mem_or_eq_of_mem_set member with old | same
      · exact within other old
      · cases same
  | serve change => exact ⟨served traffic.line change before, within⟩

theorem run_holds (initial : ε) (sendings : List Sending) (turns : List (Turn ε))
    (first : holds (.start initial)) :
    holds ((Traffic.issue server initial sendings).run turns).line := by
  suffices both : holds ((Traffic.issue server initial sendings).run turns).line ∧
      ∀ routine, some routine ∈ ((Traffic.issue server initial sendings).run turns).left →
        routine.Within (Moves server) from both.1
  induction turns using List.reverseRecOn with
  | nil =>
      refine ⟨first, ?_⟩
      intro routine member
      obtain ⟨sending, _, same⟩ := List.mem_map.mp member
      cases same
      exact sending_moves server sending
  | append_singleton turns turn ih =>
      unfold Traffic.run at ih ⊢
      rw [List.foldl_append]
      exact step_holds server holds moved served _ turn ih.2 ih.1

end Runs

end RequestLayer.Wire
