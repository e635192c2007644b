import RequestLayer.Proofs.Session.Basic
import RequestLayer.Proofs.Watch.Basic

set_option autoImplicit false

namespace RequestLayer

inductive Turn where
  | act (action : Action)
  | openBatch
  | discardBatch
  | install (caching : Caching)
  | write (store : Nat) (fingerprint : Fingerprint) (response : Json)
  | clear (store : Nat)

variable {ν : Type}

namespace Member

def watched (member : Member ν) : Member (Seen ν) :=
  ⟨member.mode, member.node.watched, member.client.watched⟩

def turn (member : Member ν) : Turn → StateM (World ν) Outcome
  | .act action => member.perform action
  | .openBatch =>
      (fun opened => .edited (opened.map fun _ => ())) <$>
        member.mode.run fun _ _ _ _ => member.client.openBatch.run
  | .discardBatch => (fun _ => .done) <$> member.mode.run fun _ _ _ _ => member.client.discardBatch
  | .install caching => (fun _ => .done) <$> member.client.changeCaching fun _ => caching
  | .write store fingerprint response =>
      (fun _ => .done) <$> World.writeStore (ν := ν) store fingerprint response
  | .clear store => modifyGet fun world => (.done, world.cleared store)

def history (member : Member ν) : List Turn → World ν → List (Outcome × World ν)
  | [], _ => []
  | turn :: rest, world =>
      let (outcome, after) := member.turn turn world
      (outcome, after) :: member.history rest after

end Member

theorem turn_alike (node : Node ν) (client : Client ν) (turn : Turn) :
    (Member.mk .suspendable node client).turn turn = (Member.mk .blocking node client).turn turn := by
  cases turn with
  | act action =>
      cases action with
      | request context call =>
          simp only [Member.turn, Member.perform, Member.request_blocking]
      | batch calls => simp only [Member.turn, Member.perform, Member.request_batch_blocking]
      | execute batch => simp only [Member.turn, Member.perform, Member.execute_batch_blocking]
      | _ => rfl
  | openBatch =>
      have opened : (client.openBatch : ExceptT Fault (Routine (World ν)) Batch).run.run =
          (client.openBatch : ExceptT Fault (StateM (World ν)) Batch).run :=
        congrArg ExceptT.run (open_batch_alone client node)
      simp only [Member.turn, Mode.run, opened]
  | _ => rfl

theorem blocking_turn_watched (node : Node ν) (client : Client ν) (turn : Turn) :
    Unwatched ν Outcome ((Member.mk .blocking node.watched client.watched).turn turn)
      ((Member.mk .blocking node client).turn turn) := by
  have parallel := unwatched_parallel (ν := ν)
  have same := client_watched client node
  cases turn with
  | act action =>
      cases action with
      | request context call =>
          exact parallel.map_alike _ _ _
            (parallel.request_agree _ _ client node worlds_unwatched same context call)
      | batch calls =>
          exact parallel.map_alike _ _ _
            (parallel.request_batch_agree _ _ client node worlds_unwatched.sleep same calls)
      | execute batch =>
          exact parallel.map_alike _ _ _
            (parallel.built_batch_agree _ _ client node worlds_unwatched same batch)
      | _ => exact fun _ => rfl
  | openBatch =>
      exact parallel.map_alike _ _ _
        (parallel.open_batch_agree _ _ client node worlds_unwatched same)
  | _ => exact fun _ => rfl

theorem turn_watched (member : Member ν) (turn : Turn) :
    Unwatched ν Outcome (member.watched.turn turn) (member.turn turn) := by
  obtain ⟨mode, node, client⟩ := member
  have blocking := blocking_turn_watched node client turn
  cases mode with
  | blocking => exact blocking
  | suspendable =>
      rw [Member.watched, turn_alike, turn_alike]
      exact blocking

theorem history_alike (node : Node ν) (client : Client ν) (turns : List Turn) (world : World ν) :
    (Member.mk .suspendable node client).history turns world =
      (Member.mk .blocking node client).history turns world := by
  induction turns generalizing world with
  | nil => rfl
  | cons turn rest ih => simp only [Member.history, turn_alike node client turn, ih]

theorem history_watched (member : Member ν) (turns : List Turn) (world : World (Seen ν)) :
    (member.watched.history turns world).map (fun entry => (entry.1, entry.2.plain)) =
      member.history turns world.plain := by
  induction turns generalizing world with
  | nil => rfl
  | cons turn rest ih =>
      have step := turn_watched member turn world
      calc (member.watched.history (turn :: rest) world).map (fun entry => (entry.1, entry.2.plain))
          = ((member.watched.turn turn world).1, (member.watched.turn turn world).2.plain) ::
              (member.watched.history rest (member.watched.turn turn world).2).map
                (fun entry => (entry.1, entry.2.plain)) := rfl
        _ = member.turn turn world.plain ::
              member.history rest (member.turn turn world.plain).2 := by rw [step, ih]
        _ = member.history (turn :: rest) world.plain := rfl

-- Of everything that is written twice, the suspendable copy does with nobody in between what the blocking
-- one does.
structure CopiesAgree (ν : Type) : Prop where
  allows (rule : Freshness.Rule) (channel : Channel (Routine (World ν))) (call : Call)
    (result : Option Json) :
      (rule.allowsAsync channel call result).run = rule.allowsBlocking channel.alone call result
  repeated {α : Type} (sleep : Routine (World ν) Unit)
    (action : ExceptT Fault (Routine (World ν)) α) (more : Nat) :
      alone (Retry.repeatedAsync sleep action more) =
        Retry.repeatedBlocking sleep.run (alone action) more
  gas (channel : Channel (Routine (World ν))) (call : Call) :
    alone (Gas.fillAsync channel call) = Gas.fillBlocking channel.alone call
  fees (strategy : Option Fees.Strategy) (channel : Channel (Routine (World ν))) (call : Call) :
    alone (Fees.fillAsync strategy channel call) = Fees.fillBlocking strategy channel.alone call
  staleness (check : StaleCheck) (memory : Nat) (channel : Channel (Routine (World ν)))
    (call : Call) :
      alone (check.guardAsync (World.latestBlock (ν := ν) memory) (World.now (ν := ν)) channel
          call) =
        check.guardBlocking (World.latestBlock (ν := ν) memory) (World.now (ν := ν)) channel.alone
          call
  execute (channel : Channel (Routine (World ν))) (layers : List (Layer ν)) (call : Call) :
    alone (Hooks.executeAsync channel (layers.map Layer.hooks) call) =
      Hooks.executeBlocking channel.alone (layers.map Layer.hooks) call
  executeBatch (channel : Channel (Routine (World ν))) (layers : List (Layer ν))
    (calls : List Call) :
      alone (Hooks.executeBatchAsync channel (layers.map Layer.hooks) calls) =
        Hooks.executeBatchBlocking channel.alone (layers.map Layer.hooks) calls
  keep (caching : Caching) (channel : Channel (Routine (World ν))) (fingerprint : Fingerprint)
    (call : Call) (result : Json) :
      (caching.keepAsync (ν := ν) channel fingerprint call result).run =
        caching.keepBlocking (ν := ν) channel.alone fingerprint call result
  request (client : Client ν) (node : Node ν) (context : Context) (call : Call) :
    alone (client.requestAsync node context call : ExceptT Fault (Routine (World ν)) Json) =
      client.requestBlocking node context call
  requestBatch (client : Client ν) (node : Node ν) (calls : List Call) :
    alone (client.requestBatchAsync node calls :
        ExceptT Fault (Routine (World ν)) (List (Except Fault Json))) =
      client.requestBatchBlocking node calls
  executeBuilt (client : Client ν) (node : Node ν) (batch : Batch) :
    alone (client.executeBatchAsync node batch :
        ExceptT Fault (Routine (World ν)) (List (Except Fault Json))) =
      client.executeBatchBlocking node batch

theorem copies_agree : CopiesAgree ν where
  allows rule channel call result := allows_alone rule channel call result
  repeated sleep action more :=
    agree_alone _ _ ((runs_as_parallel _).repeated_agree sleep sleep.run action (alone action) more
      rfl rfl)
  gas channel call :=
    agree_alone _ _ ((layer_runs_as .gas).onRequest channel channel.alone (channel_runs_as channel)
      call)
  fees strategy channel call :=
    agree_alone _ _ ((layer_runs_as (.fees strategy)).onRequest channel channel.alone
      (channel_runs_as channel) call)
  staleness check memory channel call :=
    agree_alone _ _ ((layer_runs_as (.staleness check memory)).onRequest channel channel.alone
      (channel_runs_as channel) call)
  execute := execute_alone
  executeBatch := execute_batch_alone
  keep caching channel fingerprint call result :=
    (runs_as_parallel _).keep_agree worlds_run_as caching channel channel.alone
      (channel_runs_as channel) fingerprint call result
  request := request_alone
  requestBatch := request_batch_alone
  executeBuilt := built_batch_alone

-- Either mode runs its own copies, those of the layers and of attempts included.
structure RunsCopies (node : Node ν) (client : Client ν) : Prop where
  request (context : Context) (call : Call) :
    (Member.mk .blocking node client).request context call =
        (client.requestBlocking node context call).run ∧
      (Member.mk .suspendable node client).request context call =
        (alone (client.requestAsync node context call)).run
  requestBatch (calls : List Call) :
    (Member.mk .blocking node client).requestBatch calls =
        (client.requestBatchBlocking node calls).run ∧
      (Member.mk .suspendable node client).requestBatch calls =
        (alone (client.requestBatchAsync node calls)).run
  executeBuilt (batch : Batch) :
    (Member.mk .blocking node client).executeBatch batch =
        (client.executeBatchBlocking node batch).run ∧
      (Member.mk .suspendable node client).executeBatch batch =
        (alone (client.executeBatchAsync node batch)).run
  allows (rule : Freshness.Rule) :
    rule.allows (m := StateM (World ν)) = rule.allowsBlocking ∧
      rule.allows (m := Routine (World ν)) = rule.allowsAsync
  keep (caching : Caching) :
    caching.keep (ν := ν) (m := StateM (World ν)) = caching.keepBlocking (ν := ν) ∧
      caching.keep (ν := ν) (m := Routine (World ν)) = caching.keepAsync (ν := ν)
  execute (layers : List (Layer ν)) (call : Call) :
    (∀ channel, Hooks.execute (m := StateM (World ν)) channel (layers.map Layer.hooks) call =
        Hooks.executeBlocking channel (layers.map Layer.hooks) call) ∧
      ∀ channel, Hooks.execute (m := Routine (World ν)) channel (layers.map Layer.hooks) call =
        Hooks.executeAsync channel (layers.map Layer.hooks) call
  executeBatch (layers : List (Layer ν)) (calls : List Call) :
    (∀ channel, Hooks.executeBatch (m := StateM (World ν)) channel (layers.map Layer.hooks) calls =
        Hooks.executeBatchBlocking channel (layers.map Layer.hooks) calls) ∧
      ∀ channel, Hooks.executeBatch (m := Routine (World ν)) channel (layers.map Layer.hooks) calls =
        Hooks.executeBatchAsync channel (layers.map Layer.hooks) calls
  attempts {α : Type} :
    Retry.repeated (m := StateM (World ν)) (α := α) = Retry.repeatedBlocking ∧
      Retry.repeated (m := Routine (World ν)) (α := α) = Retry.repeatedAsync
  gas :
    (Gas.hooks (m := StateM (World ν))).onRequest = Gas.fillBlocking ∧
      (Gas.hooks (m := Routine (World ν))).onRequest = Gas.fillAsync
  fees (strategy : Option Fees.Strategy) :
    (Fees.hooks (m := StateM (World ν)) strategy).onRequest = Fees.fillBlocking strategy ∧
      (Fees.hooks (m := Routine (World ν)) strategy).onRequest = Fees.fillAsync strategy
  staleness (check : StaleCheck) (memory : Nat) :
    (check.hooks (m := StateM (World ν)) (World.latestBlock (ν := ν) memory)
        (World.now (ν := ν))).onRequest =
        check.guardBlocking (World.latestBlock (ν := ν) memory) (World.now (ν := ν)) ∧
      (check.hooks (m := Routine (World ν)) (World.latestBlock (ν := ν) memory)
          (World.now (ν := ν))).onRequest =
        check.guardAsync (World.latestBlock (ν := ν) memory) (World.now (ν := ν))

theorem runs_copies (node : Node ν) (client : Client ν) : RunsCopies node client where
  request _ _ := ⟨rfl, rfl⟩
  requestBatch _ := ⟨rfl, rfl⟩
  executeBuilt _ := ⟨rfl, rfl⟩
  allows _ := ⟨rfl, rfl⟩
  keep _ := ⟨rfl, rfl⟩
  execute _ _ := ⟨fun _ => rfl, fun _ => rfl⟩
  executeBatch _ _ := ⟨fun _ => rfl, fun _ => rfl⟩
  attempts := ⟨rfl, rfl⟩
  gas := ⟨rfl, rfl⟩
  fees _ := ⟨rfl, rfl⟩
  staleness _ _ := ⟨rfl, rfl⟩

theorem modes_agree (node : Node ν) (client : Client ν) :
    RunsCopies node client ∧ CopiesAgree ν ∧
    (∀ (turns : List Turn) (world : World ν),
      (Member.mk .suspendable node client).history turns world =
        (Member.mk .blocking node client).history turns world) ∧
    (∀ (turns : List Turn) (world : World (Seen ν)),
      (Member.mk .suspendable node client).watched.history turns world =
        (Member.mk .blocking node client).watched.history turns world ∧
      ∀ mode, ((Member.mk mode node client).watched.history turns world).map
          (fun entry => (entry.1, entry.2.plain)) =
        (Member.mk mode node client).history turns world.plain) ∧
    ∀ (channel : Channel (Routine (World ν))) (retry : Retry),
      (retry.channel (World.sleep (ν := ν)) channel).alone =
        retry.channel (World.sleep (ν := ν)) channel.alone := by
  refine ⟨runs_copies node client, copies_agree, history_alike node client, ?_, ?_⟩
  · intro turns world
    exact ⟨history_alike node.watched client.watched turns world,
      fun mode => history_watched (Member.mk mode node client) turns world⟩
  · exact fun channel retry => retry_channel_alone retry _ channel

end RequestLayer
