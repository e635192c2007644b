import RequestLayer.World

set_option autoImplicit false

namespace RequestLayer

-- What a hook can do at once: change what is kept outside and learn of it, read the clock, wait, or make a
-- call of its own, past all layers.
inductive Hook.Step (ν : Type) where
  | outside (change : ν → Json × ν)
  | now
  | wait (delay : Delay)
  | send (call : Call)
  | sendBatch (calls : List Call)

def Hook.Step.Answer {ν : Type} : Hook.Step ν → Type
  | .outside _ => Json
  | .now => Nat
  | .wait _ => Unit
  | .send _ => Except Fault Reply
  | .sendBatch _ => Except Fault (List Reply)

-- A hook that is written step by step, each step as the answers so far make it.
inductive Hook (ν : Type) (α : Type) where
  | done (outcome : Except Fault α)
  | step (first : Hook.Step ν) (next : first.Answer → Hook ν α)

namespace Hook

variable {ν α : Type} {m : Type → Type} [Monad m] [Await m] [MonadStateOf (World ν) m]

def Step.perform (channel : Channel m) : (step : Step ν) → m step.Answer
  | .outside change => modifyGetThe (World ν) (World.onOutside change)
  | .now => World.now (ν := ν)
  | .wait delay => do
      await .delay
      World.sleep (ν := ν) delay
  | .send call => (channel.send call).run
  | .sendBatch calls => (channel.sendBatch calls).run

def run (channel : Channel m) : Hook ν α → m (Except Fault α)
  | .done outcome => return outcome
  | .step first next => do (next (← first.perform channel)).run channel

end Hook

end RequestLayer
