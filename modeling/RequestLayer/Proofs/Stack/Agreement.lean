import RequestLayer.Client.Basic
import RequestLayer.Proofs.Alone.Runner
import RequestLayer.Proofs.Outcomes
import RequestLayer.Proofs.Stack.Batches

set_option autoImplicit false

namespace RequestLayer

variable {m : Type → Type} [Monad m] [Await m] {σ : Type}

-- What a node replies to a call in a state, on its own or in a batch. It never fails.
structure Runner.Answers (runner : Runner m σ) (channel : Channel m)
    (answer : σ → Call → Reply) : Prop where
  send : ∀ call state, runner.outcome (channel.send call) state = .ok (answer state call)
  sendBatch : ∀ calls state,
    runner.outcome (channel.sendBatch calls) state = .ok (calls.map (answer state))

-- A layer whose hooks do not depend on the state, nor change what the node replies.
structure Runner.PureLayer (runner : Runner m σ) (channel : Channel m) (answer : σ → Call → Reply)
    (layer : Hooks m) : Prop where
  onRequest : ∀ call, ∃ result, runner.Fixed answer (layer.onRequest channel call) result
  onReply : ∀ method reply, ∃ result, runner.Fixed answer (layer.onReply channel method reply) result

namespace Hooks

variable [LawfulMonad m] (runner : Runner m σ) (channel : Channel m) (answer : σ → Call → Reply)
  (layers : List (Hooks m)) (pure : ∀ layer ∈ layers, runner.PureLayer channel answer layer)

include pure

theorem outbound_fixed (call : Call) :
    ∃ result, runner.Fixed answer (outbound channel layers call) result := by
  induction layers generalizing call with
  | nil =>
      rw [outbound_nil]
      exact ⟨.ok call, runner.fixed_pure answer call⟩
  | cons layer rest ih =>
      obtain ⟨own, fixed⟩ := (pure layer List.mem_cons_self).onRequest call
      have inner (params : Params) :=
        ih (fun other member => pure other (List.mem_cons_of_mem _ member)) { call with params }
      obtain ⟨results, continued⟩ := Classical.axiomOfChoice inner
      rw [outbound_cons]
      exact ⟨own.bind results, runner.fixed_pause answer _ _ _
        (runner.fixed_bind answer _ _ own results fixed fun params _ => continued params)⟩

theorem inbound_fixed (method : String) (reply : Reply) :
    ∃ result, runner.Fixed answer (inbound channel layers method reply) result := by
  induction layers with
  | nil =>
      rw [inbound_nil]
      exact ⟨.ok reply, runner.fixed_pure answer reply⟩
  | cons layer rest ih =>
      obtain ⟨inner, fixed⟩ := ih fun other member => pure other (List.mem_cons_of_mem _ member)
      obtain ⟨results, continued⟩ :=
        Classical.axiomOfChoice ((pure layer List.mem_cons_self).onReply method)
      rw [inbound_cons]
      exact ⟨inner.bind results, runner.fixed_bind answer _ _ inner results fixed fun given _ =>
        runner.fixed_pause answer _ _ _ (continued given)⟩

variable (answers : runner.Answers channel answer)

include answers

theorem execute_fixed : ∃ (out : Call → Except Fault Call) (back : Call → Reply → Except Fault Reply),
    (∀ call state, runner.outcome (execute channel layers call) state =
      (out call).bind fun sent => back call (answer state sent)) ∧
    ∀ calls state, runner.outcome (executeBatch channel layers calls) state =
      (calls.mapM out).bind fun sent =>
        (calls.zip sent).mapM fun pair => back pair.1 (answer state pair.2) := by
  obtain ⟨out, outward⟩ :=
    Classical.axiomOfChoice (outbound_fixed runner channel answer layers pure)
  obtain ⟨back, inward⟩ := Classical.axiomOfChoice fun pair : Call × Reply =>
    inbound_fixed runner channel answer layers pure pair.1.method pair.2
  refine ⟨out, fun call reply => back (call, reply), ?_, ?_⟩
  · intro call state
    obtain ⟨ended, same⟩ := outward call state
    rw [execute_eq, runner.outcome_bind, ended]
    congr 1
    funext sent
    rw [runner.outcome_bind, answers.send, same]
    exact (inward (call, answer state sent) _).1
  · intro calls state
    obtain ⟨ended, same⟩ := runner.fixed_map answer calls _ out outward state
    rw [execute_batch_eq, runner.outcome_bind, ended]
    cases sending : calls.mapM out with
    | error fault => rfl
    | ok sent =>
        have counted : (sent.map (answer state)).length = calls.length := by
          rw [List.length_map, map_ok_length calls out sent sending]
        have zipped : (calls.zip (sent.map (answer state))).mapM back =
            (calls.zip sent).mapM fun pair => back (pair.1, answer state pair.2) := by
          rw [List.zip_map_right, List.mapM_map]
          rfl
        change runner.outcome _ _ = (calls.zip sent).mapM _
        rw [runner.outcome_bind, answers.sendBatch, same]
        change runner.outcome _ _ = _
        rw [if_neg (not_not.mpr counted), ← zipped]
        exact (runner.fixed_map answer _ _ back inward _).1

theorem batch_singles (calls : List Call) (state : σ) (replies : List Reply) :
    runner.outcome (executeBatch channel layers calls) state = .ok replies ↔
      calls.map (fun call => runner.outcome (execute channel layers call) state) =
        replies.map .ok := by
  obtain ⟨out, back, single, batch⟩ := execute_fixed runner channel answer layers pure answers
  rw [batch, passes_ok calls out (fun call sent => back call (answer state sent))]
  simp only [single]

theorem batch_all (calls : List Call) (state : σ) :
    (∃ replies, runner.outcome (executeBatch channel layers calls) state = .ok replies) ↔
      ∀ call ∈ calls, ∃ reply, runner.outcome (execute channel layers call) state = .ok reply := by
  simp only [batch_singles runner channel answer layers pure answers]
  constructor
  · rintro ⟨replies, same⟩ call member
    have found := List.mem_map_of_mem (f := fun call =>
      runner.outcome (execute channel layers call) state) member
    rw [same] at found
    obtain ⟨reply, _, given⟩ := List.mem_map.mp found
    exact ⟨reply, given.symm⟩
  · intro each
    induction calls with
    | nil => exact ⟨[], rfl⟩
    | cons first rest ih =>
        obtain ⟨reply, done⟩ := each first List.mem_cons_self
        obtain ⟨replies, same⟩ := ih fun call member => each call (List.mem_cons_of_mem _ member)
        refine ⟨reply :: replies, ?_⟩
        rw [List.map_cons, List.map_cons, done, same]

theorem batch_at (calls : List Call) (state : σ) (replies : List Reply)
    (done : runner.outcome (executeBatch channel layers calls) state = .ok replies) :
    replies.length = calls.length ∧ ∀ (index : Nat) call reply, calls[index]? = some call →
      replies[index]? = some reply →
        runner.outcome (execute channel layers call) state = .ok reply := by
  have same := (batch_singles runner channel answer layers pure answers calls state replies).mp done
  constructor
  · simpa using (congrArg List.length same).symm
  · intro index call reply asked given
    have here := congrArg (fun outcomes => outcomes[index]?) same
    simpa [asked, given] using here

end Hooks

theorem request_batch_records {ν : Type} [LawfulMonad m] [MonadStateOf (World ν) m]
    (client : Client ν) (node : Node ν) (calls : List Call) :
    Records (do
        let replies ← Hooks.executeBatch (client.channel node).journaled
          (Hooks.journaledFrom (client.channel node) 0 (client.stack.items.map Layer.hooks)) calls
        return replies.map Reply.outcome :
          ExceptT Fault (Journaled m) (List (Except Fault Json))).run
      (client.requestBatch node calls).run fun outcome journal => ∃ replies,
        outcome = replies.map (·.map Reply.outcome) ∧
          BatchReport client.stack.size calls replies journal := by
  have size : (client.stack.items.map (Layer.hooks (m := m))).length = client.stack.size := by
    simp only [Stack.items, Stack.size, List.length_map]
  have executed := execute_batch_records (client.channel node)
    (client.stack.items.map (Layer.hooks (m := m))) calls
  rw [size] at executed
  rw [Client.request_batch_eq]
  apply then_records _ _ _ _ _ (fun replies outcome late =>
    outcome = .ok (replies.map Reply.outcome) ∧ late = []) _ executed
  · exact fun replies => pure_records _ _ ⟨rfl, rfl⟩
  · exact fun fault journal passage =>
      ⟨.error fault, rfl, passage_report _ calls _ journal passage⟩
  · rintro replies early outcome late passage ⟨rfl, rfl⟩
    rw [List.append_nil]
    exact ⟨.ok replies, rfl, passage_report _ calls _ early passage⟩

-- Any hooks and any node: one round trip at most, after all request hooks, with one result for each
-- call in order. Pure hooks and a node without failures: the same as call by call.
theorem batch_agrees [LawfulMonad m] :
    (∀ (channel : Channel m) layers calls,
      Records (Hooks.executeBatch channel.journaled (Hooks.journaledFrom channel 0 layers) calls).run
        (Hooks.executeBatch channel layers calls).run (BatchReport layers.length calls)) ∧
    (∀ (ν : Type) [MonadStateOf (World ν) m] (client : Client ν) (node : Node ν) calls,
      Records (do
          let replies ← Hooks.executeBatch (client.channel node).journaled
            (Hooks.journaledFrom (client.channel node) 0 (client.stack.items.map Layer.hooks)) calls
          return replies.map Reply.outcome :
            ExceptT Fault (Journaled m) (List (Except Fault Json))).run
        (client.requestBatch node calls).run fun outcome journal => ∃ replies,
          outcome = replies.map (·.map Reply.outcome) ∧
            BatchReport client.stack.size calls replies journal) ∧
    ∀ (σ : Type) (runner : Runner m σ) channel answer layers, runner.Answers channel answer →
      (∀ layer ∈ layers, runner.PureLayer channel answer layer) → ∀ calls state,
        ((∃ replies, runner.outcome (Hooks.executeBatch channel layers calls) state = .ok replies) ↔
          ∀ call ∈ calls, ∃ reply,
            runner.outcome (Hooks.execute channel layers call) state = .ok reply) ∧
        ∀ replies, runner.outcome (Hooks.executeBatch channel layers calls) state = .ok replies →
          replies.length = calls.length ∧ ∀ (index : Nat) call reply, calls[index]? = some call →
            replies[index]? = some reply →
              runner.outcome (Hooks.execute channel layers call) state = .ok reply := by
  refine ⟨?_, fun ν _ => request_batch_records, ?_⟩
  · intro channel layers calls
    exact records_mono _ _ _ _ (execute_batch_records channel layers calls)
      (passage_report layers.length calls)
  · intro σ runner channel answer layers answers pure calls state
    exact ⟨Hooks.batch_all runner channel answer layers pure answers calls state,
      Hooks.batch_at runner channel answer layers pure answers calls state⟩

def numberedChannel : Channel (Routine Nat) where
  send _ := ExceptT.mk do
    let count ← get
    set (count + 1)
    return .ok (.success (.ofNat count))
  sendBatch calls := ExceptT.mk do
    let count ← get
    set (count + 1)
    return .ok (calls.map fun _ => .success (.ofNat count))

def guardingLayer : Hooks (Routine Nat) where
  onRequest _ call :=
    if call.method = "eth_sign" then throw .mixedFees else pure (.null :: call.params)
  onReply _ _ reply := pure reply

theorem guarding_pure (answer : Nat → Call → Reply) :
    (Runner.alone Nat).PureLayer numberedChannel answer guardingLayer where
  onRequest call := by
    by_cases signing : call.method = "eth_sign"
    · refine ⟨.error .mixedFees, fun state => ?_⟩
      simp only [guardingLayer, signing, if_true]
      exact ⟨rfl, rfl⟩
    · refine ⟨.ok (.null :: call.params), fun state => ?_⟩
      simp only [guardingLayer, signing, if_false]
      exact ⟨rfl, rfl⟩
  onReply _ reply := ⟨.ok reply, fun _ => ⟨rfl, rfl⟩⟩

theorem batch_agrees_two_calls :
    ∃ replies,
      (Runner.alone Nat).outcome (Hooks.executeBatch numberedChannel [guardingLayer]
        [⟨"eth_chainId", []⟩, ⟨"net_version", []⟩]) 3 = .ok replies ∧ replies.length = 2 := by
  have answers : (Runner.alone Nat).Answers numberedChannel
      (fun count _ => .success (.ofNat count)) := ⟨fun _ _ => rfl, fun _ _ => rfl⟩
  obtain ⟨agree, same⟩ := batch_agrees.2.2 Nat (.alone Nat) numberedChannel
    (fun count _ => .success (.ofNat count)) [guardingLayer] answers
    (fun layer member => List.mem_singleton.mp member ▸ guarding_pure _)
    [⟨"eth_chainId", []⟩, ⟨"net_version", []⟩] 3
  have each : ∀ call ∈ [(⟨"eth_chainId", []⟩ : Call), ⟨"net_version", []⟩], ∃ reply,
      (Runner.alone Nat).outcome (Hooks.execute numberedChannel [guardingLayer] call) 3 =
        .ok reply := by
    intro call member
    refine ⟨.success (.ofNat 3), ?_⟩
    rcases List.mem_pair.mp member with rfl | rfl <;> rfl
  obtain ⟨replies, done⟩ := agree.mpr each
  exact ⟨replies, done, (same replies done).1⟩

end RequestLayer
