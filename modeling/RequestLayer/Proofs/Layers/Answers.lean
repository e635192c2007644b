import RequestLayer.Proofs.Chain.Headers
import RequestLayer.Proofs.Journal.Basic

set_option autoImplicit false

namespace RequestLayer

inductive Answers {α : Type} (decode : Json → Except Fault α) :
    Except Fault Reply → Except Fault α → Prop
  | failed (fault : Fault) : Answers decode (.error fault) (.error fault)
  | refused (reply : Reply) (error : ErrorObject) (given : reply.error = some error) :
      Answers decode (.ok reply) (.error (.rpc error.code error.message error.data))
  | unfit (reply : Reply) (problem : String) (fine : reply.error = none)
      (unread : decode (reply.result.getD .null) = .error (.invalidResponse problem)) :
      Answers decode (.ok reply) (.error (.invalidResponse problem))
  | found (reply : Reply) (value : α) (fine : reply.error = none)
      (read : decode (reply.result.getD .null) = .ok value) : Answers decode (.ok reply) (.ok value)

def Decodes {α : Type} (decode : Json → Except Fault α) : Prop :=
  ∀ result fault, decode result = .error fault → ∃ problem, fault = .invalidResponse problem

theorem answer_cases {α : Type} (decode : Json → Except Fault α) (decodes : Decodes decode)
    (answer : Except Fault Reply) :
    Answers decode answer (answer.bind fun reply => reply.outcome.bind decode) := by
  cases answer with
  | error fault => exact .failed fault
  | ok reply =>
      cases given : reply.error with
      | some error =>
          have outcome : reply.outcome = .error error.toFault := by rw [Reply.outcome, given]
          simp only [Except.bind, outcome]
          exact .refused reply error given
      | none =>
          have outcome : reply.outcome = .ok (reply.result.getD .null) := by rw [Reply.outcome, given]
          simp only [Except.bind, outcome]
          cases read : decode (reply.result.getD .null) with
          | ok value => exact .found reply value given read
          | error fault =>
              obtain ⟨problem, rfl⟩ := decodes _ fault read
              exact .unfit reply problem given read

theorem answers_outcome {α : Type} {decode : Json → Except Fault α} {answer : Except Fault Reply}
    {outcome : Except Fault α} (answers : Answers decode answer outcome) :
    (answer.bind fun reply => reply.outcome.bind decode) = outcome := by
  cases answers with
  | failed fault => rfl
  | refused reply error given =>
      simp only [Except.bind, Reply.outcome, given]
      rfl
  | unfit reply problem fine unread => simp only [Except.bind, Reply.outcome, fine, unread]
  | found reply value fine read => simp only [Except.bind, Reply.outcome, fine, read]

theorem answers_unique {α : Type} {decode : Json → Except Fault α} {answer : Except Fault Reply}
    {first second : Except Fault α} (one : Answers decode answer first)
    (other : Answers decode answer second) : first = second :=
  (answers_outcome one).symm.trans (answers_outcome other)

theorem answer_then {α β : Type} (decode : Json → Except Fault α) (answer : Except Fault Reply)
    (next : α → Except Fault β) :
    (do
      let value ← decode (← (← answer).outcome)
      next value) = (answer.bind fun reply => reply.outcome.bind decode).bind next := by
  cases answer with
  | error fault => rfl
  | ok reply =>
      change (reply.outcome.bind _) = (reply.outcome.bind _).bind _
      cases reply.outcome <;> rfl

namespace Header

theorem header_decodes : Decodes Header.ofResult := refused_invalid

theorem gas_limit_bounded (result : Json) (header : Header) (limit : Nat)
    (read : ofResult result = .ok header) (there : header.gasLimit = some limit) :
    limit < Nat.pow 2 64 := by
  have bounded (value : Option Json) (held : Optional value header.gasLimit) :
      limit < Nat.pow 2 64 := by
    rw [there] at held
    cases held with
    | given value _ quantity =>
        exact Quantity.read_bounded value limit ((Quantity.quantity_iff value limit).mpr quantity)
  cases (header_iff result header).mp read with
  | object _ _ holds => exact bounded _ holds.gasLimit
  | array _ _ _ holds => exact bounded _ holds.gasLimit

end Header

theorem block_limit_bounded (answer : Except Fault Reply) (header : Header) (limit : Nat)
    (block : Answers Header.ofResult answer (.ok header)) (there : header.gasLimit = some limit) :
    limit < Nat.pow 2 64 := by
  cases block with
  | found reply _ fine read => exact Header.gas_limit_bounded _ header limit read there

structure Adds (before : Fields) (key : String) (value : Json) (after : Fields) : Prop where
  absent : before.lookup key = none
  added : after.lookup key = some value
  others : ∀ other, other ≠ key → after.lookup other = before.lookup other

theorem insert_adds (fields : Fields) (key : String) (value : Json)
    (absent : fields.lookup key = none) :
    Adds fields key value (Fields.insert key value fields) where
  absent := absent
  added := by rw [Fields.lookup_insert, if_pos rfl]
  others other different := by rw [Fields.lookup_insert, if_neg different]

section Calls

variable {m : Type → Type} [Monad m] [LawfulMonad m] {α β : Type} (channel : Channel m)

theorem known_then (outcome : Except Fault α) (next : α → ExceptT Fault m β) :
    (ExceptT.mk (pure outcome) >>= next : ExceptT Fault m β) =
      match outcome with
      | .ok value => next value
      | .error fault => ExceptT.mk (pure (.error fault)) := by
  apply ExceptT.ext
  rw [ExceptT.run_bind, ExceptT.run_mk, pure_bind]
  cases outcome <;> rfl

theorem call_then_records (call : Call) (next : Except Fault Reply → ExceptT Fault (Journaled m) α)
    (plainNext : Except Fault Reply → ExceptT Fault m α)
    (after : Except Fault Reply → Except Fault α → Journal → Prop)
    (describes : Except Fault α → Journal → Prop)
    (continues : ∀ answer, Records (next answer).run (plainNext answer).run (after answer))
    (joined : ∀ answer outcome late, after answer outcome late →
      describes outcome (.sent call answer :: late)) :
    Records (ExceptT.lift (channel.journaled.send call).run >>= next).run
      (ExceptT.lift (channel.send call).run >>= plainNext).run describes := by
  rw [ExceptT.run_bind_lift, ExceptT.run_bind_lift]
  apply bind_records _ _ _ _ _ after _ (step_records (channel.send call).run (.sent call)) continues
  rintro answer _ outcome late rfl rest
  exact joined answer outcome late rest

end Calls

end RequestLayer
