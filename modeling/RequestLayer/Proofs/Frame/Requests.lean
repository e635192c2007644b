import RequestLayer.Proofs.Frame.Routines
import RequestLayer.Proofs.Parallel.Requests

set_option autoImplicit false

namespace RequestLayer

variable {ν : Type}

theorem outside_quiet {α : Type} (change : ν → α × ν) :
    Quiet ν α (modifyGetThe (World ν) (World.onOutside change)) :=
  fun _ => ⟨⟨rfl, rfl⟩, trivial⟩

theorem clocks_quiet : ClocksAlike (ν := ν) (μ := ν) (Having (Quiet ν)) where
  sleep _ := ⟨rfl, fun _ => ⟨⟨rfl, rfl⟩, trivial⟩⟩
  now := ⟨rfl, fun _ => ⟨⟨rfl, rfl⟩, trivial⟩⟩
  recalled _ := ⟨rfl, fun _ => ⟨⟨rfl, rfl⟩, trivial⟩⟩
  remembered _ _ := ⟨rfl, fun _ => ⟨⟨rfl, rfl⟩, trivial⟩⟩

theorem layer_quiet (layer : Layer ν) :
    (layer.hooks : Hooks (Routine (World ν))).Alike (Having (Quiet ν)) layer.hooks := by
  apply quiet_parallel.layer_agree
  cases layer with
  | staleness check memory => exact clocks_quiet
  | functions onRequest onReply =>
      exact ⟨fun change _ call => ⟨rfl, outside_quiet (change call)⟩,
        fun change _ method reply => ⟨rfl, outside_quiet (change method reply)⟩⟩
  | custom onRequest onReply =>
      have each (step : Hook.Step ν) : step.StateAlike (Having (Quiet ν)) := by
        cases step with
        | outside change => exact ⟨rfl, outside_quiet change⟩
        | now => exact clocks_quiet.now
        | wait delay => exact clocks_quiet.sleep delay
        | send | sendBatch => trivial
      exact ⟨fun _ => Hook.every_step _ each _, fun _ _ => Hook.every_step _ each _⟩
  | _ => trivial

theorem client_quiet (client : Client ν) (node : Node ν) :
    client.Alike (Having (Quiet ν)) node client node where
  id := rfl
  retry := rfl
  channel := ⟨fun call => ⟨rfl, outside_quiet (node.send call)⟩,
    fun calls => ⟨rfl, outside_quiet (node.sendBatch calls)⟩⟩
  stack := quiet_parallel.stack_agrees client.stack.items Layer.hooks Layer.hooks
    fun layer _ => layer_quiet layer

theorem client_channel_quiet (client : Client ν) (node : Node ν) :
    (client.channel node : Channel (Routine (World ν))).Alike (Having (Quiet ν))
      (client.channel node) :=
  quiet_parallel.client_channel_agree client node client node clocks_quiet.sleep
    (client_quiet client node)

theorem execute_quiet (client : Client ν) (node : Node ν) (call : Call) :
    Quiet ν _ (Hooks.execute (m := Routine (World ν)) (client.channel node)
      (client.stack.items.map Layer.hooks) call).run :=
  (quiet_parallel.execute_agree _ _ (client_channel_quiet client node) _ _
    (client_quiet client node).stack call).2

theorem allows_quiet (client : Client ν) (node : Node ν) (rule : Freshness.Rule) (call : Call)
    (result : Option Json) :
    Quiet ν Bool (rule.allows (m := Routine (World ν)) (client.channel node) call result) :=
  (quiet_parallel.allows_agree _ _ (client_channel_quiet client node) rule call result).2

theorem request_batch_quiet (client : Client ν) (node : Node ν) (calls : List Call) :
    Quiet ν _ (client.requestBatch (m := Routine (World ν)) node calls).run :=
  (quiet_parallel.request_batch_agree client node client node clocks_quiet.sleep
    (client_quiet client node) calls).2

end RequestLayer
