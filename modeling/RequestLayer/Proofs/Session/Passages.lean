import RequestLayer.Proofs.Session.Rewriting
import RequestLayer.Proofs.Stack.Replies

set_option autoImplicit false

namespace RequestLayer

variable {ν : Type}

theorem effect_outcome {σ α β : Type} (first : ExceptT Fault (StateM σ) α)
    (effect : α → StateM σ Unit) (make : α → β) (before : σ) :
    ((first >>= fun value => ExceptT.lift (effect value) >>= fun _ =>
      (pure (make value) : ExceptT Fault (StateM σ) β)).run before).1 =
        (first.run before).1.map make := by
  change (match first.run before with
    | (outcome, between) => (ExceptT.bindCont (fun value => ExceptT.lift (effect value) >>= fun _ =>
        (pure (make value) : ExceptT Fault (StateM σ) β)) outcome : StateM σ _) between).1 = _
  cases first.run before with
  | mk outcome between => cases outcome <;> rfl

theorem map_came_back {σ α : Type} (action : α → ExceptT Fault (StateM σ) α)
    (same : ∀ value before after result,
      (action value).run before = (.ok result, after) → result = value)
    (values results : List α) (before after : σ)
    (ended : (values.mapM action).run before = (.ok results, after)) : results = values := by
  induction values generalizing results before with
  | nil =>
      cases ended
      rfl
  | cons first rest ih =>
      rw [List.mapM_cons] at ended
      obtain ⟨result, between, ran, ended⟩ := bind_came_back _ _ before after results ended
      obtain ⟨others, last, following, ended⟩ := bind_came_back _ _ between after results ended
      cases ended
      rw [same first before between result ran, ih others between following]

def Hooks.PassesOn {σ : Type} (layer : Hooks (StateM σ)) : Prop :=
  ∀ channel call before after params,
    (layer.onRequest channel call).run before = (.ok params, after) → params = call.params

theorem outbound_same {σ : Type} (channel : Channel (StateM σ)) (layers : List (Hooks (StateM σ)))
    (each : ∀ layer ∈ layers, layer.PassesOn) (call sent : Call) (before after : σ)
    (ended : (Hooks.outbound channel layers call).run before = (.ok sent, after)) : sent = call := by
  induction layers generalizing before with
  | nil =>
      cases ended
      rfl
  | cons layer rest ih =>
      rw [Hooks.outbound_cons] at ended
      obtain ⟨_, waited, _, ended⟩ := bind_came_back _ _ before after sent ended
      obtain ⟨params, between, ran, ended⟩ := bind_came_back _ _ waited after sent ended
      obtain rfl := each layer List.mem_cons_self channel call waited between params ran
      exact ih (fun other member => each other (List.mem_cons_of_mem _ member)) between ended

theorem staleness_passes_on (check : StaleCheck) (memory : Nat) :
    ((Layer.staleness check memory : Layer ν).hooks : Hooks (StateM (World ν))).PassesOn := by
  intro channel call before after params ended
  obtain ⟨due, between, _, ended⟩ := bind_came_back _ _ before after params ended
  cases due with
  | false =>
      cases ended
      rfl
  | true =>
      obtain ⟨reply, asked, _, ended⟩ := bind_came_back _ _ between after params ended
      obtain ⟨_, judged, _, ended⟩ := bind_came_back _ _ asked after params ended
      cases ended
      rfl

namespace Member

variable (member : Member ν)

def answered (call : Call) : StateM (World ν) (Except Fault Reply) :=
  member.mode.run fun m _ _ _ => (do
    let sent ← Hooks.outbound (member.client.channel member.node)
      (member.client.stack.items.map Layer.hooks) call
    (member.client.channel member.node).send sent : ExceptT Fault m Reply).run

def prepared (calls : List Call) : StateM (World ν) (Except Fault (List Call)) :=
  member.mode.run fun _ _ _ _ =>
    (calls.mapM (Hooks.outbound (member.client.channel member.node)
      (member.client.stack.items.map Layer.hooks))).run

def sentBatch (calls : List Call) : StateM (World ν) (Except Fault (List Reply)) :=
  member.mode.run fun _ _ _ _ => ((member.client.channel member.node).sendBatch calls).run

def answeredAll (calls : List Call) : StateM (World ν) (Except Fault (List Reply)) :=
  member.mode.run fun m _ _ _ => (do
    let sent ← calls.mapM (Hooks.outbound (member.client.channel member.node)
      (member.client.stack.items.map Layer.hooks))
    let answers ← (member.client.channel member.node).sendBatch sent
    if answers.length = calls.length then return answers
    else throw (miscount answers.length calls.length) : ExceptT Fault m (List Reply)).run

def passedBatch (calls : List Call) : StateM (World ν) (Except Fault (List Reply)) :=
  member.mode.run fun _ _ _ _ =>
    (Hooks.executeBatch (member.client.channel member.node)
      (member.client.stack.items.map Layer.hooks) calls).run

section Blocking

theorem answered_blocking (call : Call) :
    member.answered call = (do
      let sent ← Hooks.outbound (member.client.channel member.node)
        (member.client.stack.items.map Layer.hooks) call
      (member.client.channel member.node).send sent :
        ExceptT Fault (StateM (World ν)) Reply).run := by
  have channels := client_channel_runs_as member.client member.node
  exact run_alike _ _ ((runs_as_parallel _).bind_agree _ _ _ _
    ((layers_run_as member.client.stack.items).outbound _ _ channels call) channels.send)

theorem prepared_blocking (calls : List Call) :
    member.prepared calls =
      (calls.mapM (Hooks.outbound (member.client.channel member.node)
        (member.client.stack.items.map Layer.hooks))).run :=
  run_alike _ _ ((runs_as_parallel _).map_agree calls _ _
    ((layers_run_as member.client.stack.items).outbound _ _
      (client_channel_runs_as member.client member.node)))

theorem sent_batch_blocking (calls : List Call) :
    member.sentBatch calls = ((member.client.channel member.node).sendBatch calls).run :=
  run_alike _ _ ((client_channel_runs_as member.client member.node).sendBatch calls)

theorem answered_all_blocking (calls : List Call) :
    member.answeredAll calls = (do
      let sent ← calls.mapM (Hooks.outbound (member.client.channel member.node)
        (member.client.stack.items.map Layer.hooks))
      let answers ← (member.client.channel member.node).sendBatch sent
      if answers.length = calls.length then return answers
      else throw (miscount answers.length calls.length) :
        ExceptT Fault (StateM (World ν)) (List Reply)).run := by
  have channels := client_channel_runs_as member.client member.node
  have parallel := runs_as_parallel (World ν)
  refine run_alike _ _ (parallel.bind_agree _ _ _ _ (parallel.map_agree calls _ _
    ((layers_run_as member.client.stack.items).outbound _ _ channels)) fun sent => ?_)
  refine parallel.bind_agree _ _ _ _ (channels.sendBatch sent) fun answers => ?_
  split
  · exact parallel.pure_agree answers
  · exact parallel.throw_agree _

theorem passed_batch_blocking (calls : List Call) :
    member.passedBatch calls =
      (Hooks.executeBatch (member.client.channel member.node)
        (member.client.stack.items.map Layer.hooks) calls).run :=
  run_alike _ _ ((runs_as_parallel _).execute_batch_agree _ _
    (client_channel_runs_as member.client member.node) _ _
    (layers_run_as member.client.stack.items) calls)

end Blocking

theorem request_batch_passed (calls : List Call) :
    member.requestBatch calls =
      (fun outcome => outcome.map (List.map Reply.outcome)) <$> member.passedBatch calls := by
  rw [request_batch_blocking, passed_batch_blocking, Client.request_batch_eq, ExceptT.run_bind,
    ← bind_pure_comp]
  congr 1
  funext outcome
  cases outcome <;> rfl

theorem request_batch_outcome (calls : List Call) (before : World ν) :
    (member.requestBatch calls before).1 =
      (member.passedBatch calls before).1.map (List.map Reply.outcome) :=
  congrArg Prod.fst (congrFun (member.request_batch_passed calls) before)

theorem answered_all_way (calls : List Call) (before asked : World ν) (answers : List Reply)
    (answered : member.answeredAll calls before = (.ok answers, asked)) :
    ∃ sent between, member.prepared calls before = (.ok sent, between) ∧
      member.sentBatch sent between = (.ok answers, asked) ∧ answers.length = calls.length := by
  rw [answered_all_blocking] at answered
  obtain ⟨sent, between, out, rest⟩ := bind_came_back _ _ before asked answers answered
  obtain ⟨given, last, replied, counted⟩ := bind_came_back _ _ between asked answers rest
  split at counted
  · rename_i same
    cases counted
    refine ⟨sent, between, ?_, ?_, same⟩
    · rw [prepared_blocking]
      exact out
    · rw [sent_batch_blocking]
      exact replied
  · cases counted

theorem prepared_same (each : ∀ layer ∈ member.client.stack.items,
      (layer.hooks : Hooks (StateM (World ν))).PassesOn)
    (calls sent : List Call) (before after : World ν)
    (ended : member.prepared calls before = (.ok sent, after)) : sent = calls := by
  have hooks : ∀ layer ∈ member.client.stack.items.map Layer.hooks,
      (layer : Hooks (StateM (World ν))).PassesOn := by
    simpa using each
  rw [prepared_blocking] at ended
  exact map_came_back _ (fun call before after sent =>
    outbound_same _ _ hooks call sent before after) calls sent before after ended

variable (change : Layer ν → String → Reply → Reply)
  (each : ∀ layer ∈ member.client.stack.items,
    (layer.hooks : Hooks (StateM (World ν))).Returns (change layer))

def shown (method : String) (answer : Reply) : Reply :=
  Hooks.changed change member.client.stack.items method answer

include each

theorem passed_outcome (call : Call) (before : World ν) :
    (member.passed call before).1 =
      (member.answered call before).1.map (member.shown change call.method) := by
  obtain ⟨effect, same⟩ :=
    Hooks.execute_returns (member.client.channel member.node) Layer.hooks change _ each call
  rw [passed_blocking, answered_blocking, same]
  have outcome := effect_outcome (do
    let sent ← Hooks.outbound (member.client.channel member.node)
      (member.client.stack.items.map Layer.hooks) call
    (member.client.channel member.node).send sent) effect (member.shown change call.method) before
  simp only [bind_assoc] at outcome
  exact outcome

theorem passed_batch_outcome (calls : List Call) (before : World ν) :
    (member.passedBatch calls before).1 =
      (member.answeredAll calls before).1.map fun answers =>
        (calls.zip answers).map fun (call, answer) => member.shown change call.method answer := by
  obtain ⟨effect, same⟩ := Hooks.execute_batch_returns (member.client.channel member.node)
    Layer.hooks change _ each calls
  rw [passed_batch_blocking, answered_all_blocking, same]
  have outcome := effect_outcome (do
    let sent ← calls.mapM (Hooks.outbound (member.client.channel member.node)
      (member.client.stack.items.map Layer.hooks))
    let answers ← (member.client.channel member.node).sendBatch sent
    if answers.length = calls.length then return answers
    else throw (miscount answers.length calls.length)) effect
      (fun answers => (calls.zip answers).map fun (call, answer) =>
        member.shown change call.method answer) before
  simp only [bind_assoc] at outcome
  rw [← outcome]
  refine congrArg (fun passing : ExceptT Fault (StateM (World ν)) _ => (passing.run before).1) ?_
  refine bind_congr fun sent => bind_congr fun answers => ?_
  by_cases counted : answers.length = calls.length
  · rw [if_neg (not_not.mpr counted), if_pos counted, pure_bind]
    rfl
  · rw [if_pos counted, if_neg counted, throw_bind]
    rfl

end Member

end RequestLayer
