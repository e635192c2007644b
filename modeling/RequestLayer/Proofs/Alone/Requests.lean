import RequestLayer.Proofs.Alone.Layers

set_option autoImplicit false

namespace RequestLayer

variable {ν : Type}

theorem client_runs_as (client : Client ν) (node : Node ν) :
    client.Alike (RunsAs (World ν)) node client node where
  id := rfl
  retry := rfl
  channel := ⟨fun _ => rfl, fun _ => rfl⟩
  stack := layers_run_as client.stack.items

theorem client_channel_runs_as (client : Client ν) (node : Node ν) :
    (client.channel node : Channel (Routine (World ν))).Alike (RunsAs (World ν))
      (client.channel node) :=
  (runs_as_parallel _).client_channel_agree client node client node worlds_run_as.sleep
    (client_runs_as client node)

theorem allows_alone {σ : Type} (rule : Freshness.Rule) (channel : Channel (Routine σ))
    (call : Call) (result : Option Json) :
    (rule.allows channel call result).run = rule.allows channel.alone call result :=
  (runs_as_parallel σ).allows_agree _ _ (channel_runs_as channel) rule call result

theorem client_execute_alone (client : Client ν) (node : Node ν) (call : Call) :
    alone (Hooks.execute (client.channel node) (client.stack.items.map Layer.hooks) call :
        ExceptT Fault (Routine (World ν)) Reply) =
      Hooks.execute (client.channel node) (client.stack.items.map Layer.hooks) call :=
  agree_alone _ _ ((runs_as_parallel _).execute_agree _ _ (client_channel_runs_as client node) _ _
    (layers_run_as client.stack.items) call)

theorem client_allows_alone (client : Client ν) (node : Node ν) (rule : Freshness.Rule)
    (call : Call) (result : Option Json) :
    (rule.allows (client.channel node) call result : Routine (World ν) Bool).run =
      rule.allows (client.channel node) call result :=
  (runs_as_parallel _).allows_agree _ _ (client_channel_runs_as client node) rule call result

theorem request_alone (client : Client ν) (node : Node ν) (context : Context) (call : Call) :
    alone (client.request node context call : ExceptT Fault (Routine (World ν)) Json) =
      client.request node context call :=
  agree_alone _ _ ((runs_as_parallel _).request_agree client node client node worlds_run_as
    (client_runs_as client node) context call)

theorem request_batch_alone (client : Client ν) (node : Node ν) (calls : List Call) :
    alone (client.requestBatch node calls :
        ExceptT Fault (Routine (World ν)) (List (Except Fault Json))) =
      client.requestBatch node calls :=
  agree_alone _ _ ((runs_as_parallel _).request_batch_agree client node client node
    worlds_run_as.sleep (client_runs_as client node) calls)

theorem built_batch_alone (client : Client ν) (node : Node ν) (batch : Batch) :
    alone (client.executeBatch node batch :
        ExceptT Fault (Routine (World ν)) (List (Except Fault Json))) =
      client.executeBatch node batch :=
  agree_alone _ _ ((runs_as_parallel _).built_batch_agree client node client node worlds_run_as
    (client_runs_as client node) batch)

theorem open_batch_alone (client : Client ν) (node : Node ν) :
    alone (client.openBatch : ExceptT Fault (Routine (World ν)) Batch) = client.openBatch :=
  agree_alone _ _ ((runs_as_parallel _).open_batch_agree client node client node worlds_run_as
    (client_runs_as client node))

end RequestLayer
