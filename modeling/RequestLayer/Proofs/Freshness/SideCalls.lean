import RequestLayer.Proofs.Freshness.Judgement
import RequestLayer.Proofs.Modes.Copies

set_option autoImplicit false

namespace RequestLayer.Freshness

variable {ν : Type}

theorem block_number_iff (answer : Except Fault Reply) (number : Nat) :
    blockNumber? answer = some number ↔ Finds answer number := by
  cases answer with
  | error fault => simp [blockNumber?, Finds, bind, Except.bind, Except.toOption]
  | ok reply =>
      cases payload : reply.error with
      | some error =>
          have fails : reply.outcome = .error error.toFault := by rw [Reply.outcome, payload]
          simp [blockNumber?, Finds, fails, payload, bind, Except.bind, Except.toOption]
      | none =>
          have succeeds : reply.outcome = .ok (reply.result.getD .null) := by
            rw [Reply.outcome, payload]
          cases decoded : Header.ofResult (reply.result.getD .null) with
          | error fault =>
              simp [blockNumber?, Finds, succeeds, decoded, bind, Except.bind, Except.toOption]
          | ok header =>
              simp [blockNumber?, Finds, succeeds, payload, decoded, bind, Except.bind,
                Except.toOption]

def atMost (number : Nat) (answer : Except Fault Reply) : Bool :=
  match blockNumber? answer with
  | some limit => number ≤ limit
  | none => false

theorem at_most_iff (node : Node ν) (threshold : Threshold) (state : ν) (number : Nat) :
    atMost number (node.send (.header threshold.tag) state).1 = true ↔
      Reached node threshold state number := by
  unfold atMost Reached
  cases found : blockNumber? (node.send (.header threshold.tag) state).1 with
  | none =>
      constructor
      · intro impossible
        cases impossible
      · rintro ⟨limit, finds, _⟩
        rw [(block_number_iff _ limit).mpr finds] at found
        cases found
  | some limit =>
      constructor
      · intro within
        exact ⟨limit, (block_number_iff _ limit).mp found, of_decide_eq_true within⟩
      · rintro ⟨other, finds, within⟩
        rw [(block_number_iff _ other).mpr finds] at found
        cases found
        exact decide_eq_true within

theorem header_number_run (node : Node ν) (call : Call) (state : ν) (sent : List Traffic) :
    (Rule.headerNumber? (recorder node) call).run (state, sent) =
      (blockNumber? (node.send call state).1, (node.send call state).2, sent ++ [.single call]) :=
  rfl

theorem limit_run (node : Node ν) (threshold : Threshold) (number : Nat) (state : ν)
    (sent : List Traffic) :
    StateT.run (m := Id) (do
        let some limit ← Rule.headerNumber? (recorder node) (.header threshold.tag) | return false
        return decide (number ≤ limit)) (state, sent) =
      (atMost number (node.send (.header threshold.tag) state).1,
        (node.send (.header threshold.tag) state).2, sent ++ [.single (.header threshold.tag)]) := by
  rw [StateT.run_bind, header_number_run]
  unfold atMost
  cases blockNumber? (node.send (.header threshold.tag) state).1 <;> rfl

theorem allows_settled (node : Node ν) (rule : Rule) (call : Call) (result : Option Json)
    (state : ν) (sent : List Traffic) (allowed : Bool)
    (settled : rule.verdict call result = .settled allowed) :
    (rule.allows (recorder node) call result).run (state, sent) = (allowed, state, sent) := by
  simp only [Rule.allows_eq, settled]
  rfl

theorem allows_number (node : Node ν) (rule : Rule) (call : Call) (result : Option Json)
    (state : ν) (sent : List Traffic) (threshold : Threshold) (number : Nat)
    (depends : rule.verdict call result = .depends threshold (.number number)) :
    (rule.allows (recorder node) call result).run (state, sent) =
      (atMost number (node.send (.header threshold.tag) state).1,
        (node.send (.header threshold.tag) state).2, sent ++ [.single (.header threshold.tag)]) := by
  simp only [Rule.allows_eq, depends]
  exact limit_run node threshold number state sent

theorem allows_hash (node : Node ν) (rule : Rule) (call : Call) (result : Option Json)
    (state : ν) (sent : List Traffic) (threshold : Threshold) (hash : Bytes32)
    (depends : rule.verdict call result = .depends threshold (.hash hash)) :
    (rule.allows (recorder node) call result).run (state, sent) =
      match blockNumber? (node.send (.headerByHash hash) state).1 with
      | none => (false, (node.send (.headerByHash hash) state).2,
          sent ++ [.single (.headerByHash hash)])
      | some number =>
          (atMost number (node.send (.header threshold.tag)
              (node.send (.headerByHash hash) state).2).1,
            (node.send (.header threshold.tag) (node.send (.headerByHash hash) state).2).2,
            sent ++ [.single (.headerByHash hash)] ++ [.single (.header threshold.tag)]) := by
  simp only [Rule.allows_eq, depends, Rule.anchorNumber?]
  rw [StateT.run_bind, header_number_run]
  cases blockNumber? (node.send (.headerByHash hash) state).1 with
  | none => rfl
  | some number => exact limit_run node threshold number _ _

end RequestLayer.Freshness
