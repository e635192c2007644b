import RequestLayer.Proofs.Parallel.Requests
import RequestLayer.Routine

set_option autoImplicit false

namespace RequestLayer

def alone {ε σ α : Type} (routine : ExceptT ε (Routine σ) α) : ExceptT ε (StateM σ) α :=
  ExceptT.mk routine.run.run

def Channel.alone {σ : Type} (channel : Channel (Routine σ)) : Channel (StateM σ) where
  send call := RequestLayer.alone (channel.send call)
  sendBatch calls := RequestLayer.alone (channel.sendBatch calls)

def RunsAs (σ : Type) : Likeness (Routine σ) (StateM σ) :=
  fun _ routine action => routine.run = action

theorem runs_as_parallel (σ : Type) : Parallel (RunsAs σ) where
  value _ _ := rfl
  pause _ := rfl
  sequence _ _ first other next otherNext before after := by
    have early : first.run = other := before
    have rest : (fun result => (next result).run) = otherNext := funext after
    change (first >>= next).run = other >>= otherNext
    rw [Routine.run_bind, early, rest]

variable {ν : Type}

theorem worlds_run_as : WorldsAlike (ν := ν) (μ := ν) (RunsAs (World ν)) where
  sleep _ := rfl
  now := rfl
  recalled _ := rfl
  remembered _ _ := rfl
  client _ := rfl
  changed _ _ := rfl
  found _ := rfl
  stored _ _ _ := rfl

theorem channel_runs_as {σ : Type} (channel : Channel (Routine σ)) :
    channel.Alike (RunsAs σ) channel.alone := ⟨fun _ => rfl, fun _ => rfl⟩

theorem agree_alone {σ α : Type} (routine : ExceptT Fault (Routine σ) α)
    (action : ExceptT Fault (StateM σ) α) (agree : Agree (RunsAs σ) routine action) :
    alone routine = action := ExceptT.ext agree

theorem alike_alone {σ : Type} (channel : Channel (Routine σ)) (other : Channel (StateM σ))
    (same : channel.Alike (RunsAs σ) other) : channel.alone = other := by
  have send : channel.alone.send = other.send :=
    funext fun call => agree_alone _ _ (same.send call)
  have sendBatch : channel.alone.sendBatch = other.sendBatch :=
    funext fun calls => agree_alone _ _ (same.sendBatch calls)
  calc channel.alone = ⟨channel.alone.send, channel.alone.sendBatch⟩ := rfl
    _ = ⟨other.send, other.sendBatch⟩ := by rw [send, sendBatch]

theorem retry_channel_alone {σ : Type} (retry : Retry) (sleep : Delay → Routine σ Unit)
    (inner : Channel (Routine σ)) :
    (retry.channel sleep inner).alone =
      retry.channel (fun delay => (sleep delay).run) inner.alone :=
  alike_alone _ _ ((runs_as_parallel σ).retry_channel_agree retry _ _ _ _ (fun _ => rfl)
    (channel_runs_as inner))

theorem layer_runs_as (layer : Layer ν) :
    (layer.hooks : Hooks (Routine (World ν))).Alike (RunsAs (World ν)) layer.hooks := by
  apply (runs_as_parallel (World ν)).layer_agree
  cases layer with
  | staleness check memory => exact worlds_run_as.toClocksAlike
  | functions onRequest onReply => exact ⟨fun _ _ _ => rfl, fun _ _ _ _ => rfl⟩
  | custom onRequest onReply =>
      have each (step : Hook.Step ν) : step.StateAlike (RunsAs (World ν)) := by
        cases step <;> trivial
      exact ⟨fun _ => Hook.every_step _ each _, fun _ _ => Hook.every_step _ each _⟩
  | _ => trivial

theorem layers_run_as (layers : List (Layer ν)) :
    StacksAlike (RunsAs (World ν)) (layers.map Layer.hooks) (layers.map Layer.hooks) :=
  (runs_as_parallel _).stack_agrees layers Layer.hooks Layer.hooks
    fun layer _ => layer_runs_as layer

theorem execute_alone (channel : Channel (Routine (World ν))) (layers : List (Layer ν))
    (call : Call) :
    alone (Hooks.execute channel (layers.map Layer.hooks) call) =
      Hooks.execute channel.alone (layers.map Layer.hooks) call :=
  agree_alone _ _ ((runs_as_parallel _).execute_agree _ _ (channel_runs_as channel) _ _
    (layers_run_as layers) call)

theorem execute_batch_alone (channel : Channel (Routine (World ν))) (layers : List (Layer ν))
    (calls : List Call) :
    alone (Hooks.executeBatch channel (layers.map Layer.hooks) calls) =
      Hooks.executeBatch channel.alone (layers.map Layer.hooks) calls :=
  agree_alone _ _ ((runs_as_parallel _).execute_batch_agree _ _ (channel_runs_as channel) _ _
    (layers_run_as layers) calls)

end RequestLayer
