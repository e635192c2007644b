import RequestLayer.Proofs.Session.Storing

set_option autoImplicit false

namespace RequestLayer

variable {ν : Type}

structure Node.Pure (node : Node ν) : Prop where
  send : ∀ call one other, (node.send call one).1 = (node.send call other).1
  sendBatch : ∀ calls one other, (node.sendBatch calls one).1 = (node.sendBatch calls other).1

def Hook.Step.Pure : Hook.Step ν → Prop
  | .outside change => ∀ one other, (change one).1 = (change other).1
  | .now => False
  | .wait _ | .send _ | .sendBatch _ => True

-- The hooks of the layer are functions of what they are given. A stale check looks at the clock.
def Layer.Pure : Layer ν → Prop
  | .passing | .authority | .gas | .fees _ => True
  | .staleness _ _ => False
  | .functions onRequest onReply =>
      (∀ change ∈ onRequest, ∀ call one other, (change call one).1 = (change call other).1) ∧
      ∀ change ∈ onReply, ∀ method reply one other,
        (change method reply one).1 = (change method reply other).1
  | .custom onRequest onReply =>
      (∀ call, (onRequest call).Every Hook.Step.Pure) ∧
      ∀ method reply, (onReply method reply).Every Hook.Step.Pure

def Steady (ν α : Type) (action : StateM (World ν) α) : Prop :=
  ∀ one other, (action one).1 = (action other).1

theorem steady_parallel : Parallel (Having (Steady ν)) := having_parallel (Steady ν)
  { value := fun _ _ _ _ => rfl
    pause := fun _ _ _ => rfl
    sequence := by
      intro _ _ first next before after one other
      change (next (first one).1 (first one).2).1 = (next (first other).1 (first other).2).1
      rw [before one other]
      exact after _ _ _ }

theorem outside_steady {α : Type} (change : ν → α × ν)
    (pure : ∀ one other, (change one).1 = (change other).1) :
    Steady ν α (modifyGetThe (World ν) (World.onOutside change)) :=
  fun one other => pure one.outside other.outside

theorem sleep_steady (delay : Delay) :
    Having (Steady ν) Unit (World.sleep (ν := ν) delay) (World.sleep (ν := ν) delay) :=
  ⟨rfl, fun _ _ => rfl⟩

theorem layer_steady (layer : Layer ν) (pure : layer.Pure) :
    (layer.hooks : Hooks (StateM (World ν))).Alike (Having (Steady ν)) layer.hooks := by
  apply steady_parallel.layer_agree
  cases layer with
  | staleness check memory => exact pure.elim
  | functions onRequest onReply =>
      exact ⟨fun change given call => ⟨rfl, outside_steady (change call) (pure.1 change given call)⟩,
        fun change given method reply =>
          ⟨rfl, outside_steady (change method reply) (pure.2 change given method reply)⟩⟩
  | custom onRequest onReply =>
      have each (step : Hook.Step ν) (pure : step.Pure) : step.StateAlike (Having (Steady ν)) := by
        cases step with
        | outside change => exact ⟨rfl, outside_steady change pure⟩
        | now => exact pure.elim
        | wait delay => exact sleep_steady delay
        | send | sendBatch => trivial
      exact ⟨fun call => Hook.every_mono _ _ each _ (pure.1 call),
        fun method reply => Hook.every_mono _ _ each _ (pure.2 method reply)⟩
  | _ => trivial

namespace Member

structure Pure (member : Member ν) : Prop where
  node : member.node.Pure
  layers : ∀ layer ∈ member.client.stack.items, layer.Pure

variable (member : Member ν) (pure : member.Pure)

include pure

theorem client_steady :
    member.client.Alike (Having (Steady ν)) member.node member.client member.node where
  id := rfl
  retry := rfl
  channel := ⟨fun call => ⟨rfl, outside_steady (member.node.send call) (pure.node.send call)⟩,
    fun calls => ⟨rfl, outside_steady (member.node.sendBatch calls) (pure.node.sendBatch calls)⟩⟩
  stack := steady_parallel.stack_agrees member.client.stack.items Layer.hooks Layer.hooks
    fun layer present => layer_steady layer (pure.layers layer present)

theorem resolved_steady (call : Call) : Steady ν _ (member.resolved call) := by
  rw [← resolve_blocking]
  exact (steady_parallel.resolve_agree member.client member.node member.client member.node
    sleep_steady (member.client_steady pure) call).2

theorem request_batch_steady (calls : List Call) : Steady ν _ (member.requestBatch calls) := by
  rw [request_batch_blocking]
  exact (steady_parallel.request_batch_agree member.client member.node member.client member.node
    sleep_steady (member.client_steady pure) calls).2

end Member

end RequestLayer
