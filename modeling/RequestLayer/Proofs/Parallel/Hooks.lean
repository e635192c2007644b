import RequestLayer.Proofs.Parallel.Computations

set_option autoImplicit false

namespace RequestLayer

structure Hooks.Alike {m n : Type → Type} (alike : Likeness m n) (hooks : Hooks m)
    (other : Hooks n) : Prop where
  onRequest : ∀ (channel : Channel m) (otherChannel : Channel n),
    channel.Alike alike otherChannel →
      ∀ call, Agree alike (hooks.onRequest channel call) (other.onRequest otherChannel call)
  onReply : ∀ (channel : Channel m) (otherChannel : Channel n),
    channel.Alike alike otherChannel →
      ∀ method reply,
        Agree alike (hooks.onReply channel method reply) (other.onReply otherChannel method reply)

-- Parts of two stacks that do alike in both directions.
structure StacksAlike {m n : Type → Type} [Monad m] [Await m] [Monad n] [Await n]
    (alike : Likeness m n) (layers : List (Hooks m)) (others : List (Hooks n)) : Prop where
  outbound : ∀ (channel : Channel m) (otherChannel : Channel n),
    channel.Alike alike otherChannel →
      ∀ call, Agree alike (Hooks.outbound channel layers call)
        (Hooks.outbound otherChannel others call)
  inbound : ∀ (channel : Channel m) (otherChannel : Channel n),
    channel.Alike alike otherChannel →
      ∀ method reply, Agree alike (Hooks.inbound channel layers method reply)
        (Hooks.inbound otherChannel others method reply)

structure ClocksAlike {m n : Type → Type} {ν μ : Type} [Monad m] [Monad n]
    [MonadStateOf (World ν) m] [MonadStateOf (World μ) n] (alike : Likeness m n) : Prop where
  sleep : ∀ delay, alike Unit (World.sleep (ν := ν) delay) (World.sleep (ν := μ) delay)
  now : alike Nat (World.now (ν := ν)) (World.now (ν := μ))
  recalled : ∀ slot, alike (Option Header) (World.latestBlock (ν := ν) slot).read
    (World.latestBlock (ν := μ) slot).read
  remembered : ∀ slot header, alike Unit ((World.latestBlock (ν := ν) slot).write header)
    ((World.latestBlock (ν := μ) slot).write header)

structure WorldsAlike {m n : Type → Type} {ν μ : Type} [Monad m] [Monad n]
    [MonadStateOf (World ν) m] [MonadStateOf (World μ) n] (alike : Likeness m n) : Prop
    extends ClocksAlike (ν := ν) (μ := μ) alike where
  client : ∀ id, alike ClientState (World.readClient (ν := ν) id) (World.readClient (ν := μ) id)
  changed : ∀ id change, alike Unit (World.changeClient (ν := ν) id change)
    (World.changeClient (ν := μ) id change)
  found : ∀ store, alike ResponseStore (World.readStore (ν := ν) store)
    (World.readStore (ν := μ) store)
  stored : ∀ store fingerprint response, alike (List (Fingerprint × Json))
    (World.writeStore (ν := ν) store fingerprint response)
    (World.writeStore (ν := μ) store fingerprint response)

namespace Hook

def Every {ν α : Type} (fits : Step ν → Prop) : Hook ν α → Prop
  | .done _ => True
  | .step first next => fits first ∧ ∀ answer, (next answer).Every fits

theorem every_mono {ν α : Type} (fits weaker : Step ν → Prop)
    (implied : ∀ step, fits step → weaker step) (hook : Hook ν α) (every : hook.Every fits) :
    hook.Every weaker := by
  induction hook with
  | done outcome => trivial
  | step first next ih => exact ⟨implied first every.1, fun answer => ih answer (every.2 answer)⟩

theorem every_step {ν α : Type} (fits : Step ν → Prop) (each : ∀ step, fits step)
    (hook : Hook ν α) : hook.Every fits := by
  induction hook with
  | done outcome => trivial
  | step first next ih => exact ⟨each first, ih⟩

def Step.StateAlike {m n : Type → Type} {ν : Type} [Monad m] [Monad n] [MonadStateOf (World ν) m]
    [MonadStateOf (World ν) n] (alike : Likeness m n) : Step ν → Prop
  | .outside change =>
      alike Json (modifyGetThe (World ν) (World.onOutside change))
        (modifyGetThe (World ν) (World.onOutside change))
  | .now => alike Nat (World.now (ν := ν)) (World.now (ν := ν))
  | .wait delay => alike Unit (World.sleep (ν := ν) delay) (World.sleep (ν := ν) delay)
  | .send _ | .sendBatch _ => True

end Hook

def Layer.StatesAlike {m n : Type → Type} {ν : Type} [Monad m] [Monad n]
    [MonadStateOf (World ν) m] [MonadStateOf (World ν) n] (alike : Likeness m n) : Layer ν → Prop
  | .passing | .authority | .gas | .fees _ => True
  | .staleness _ _ => ClocksAlike (ν := ν) (μ := ν) alike
  | .functions onRequest onReply =>
      (∀ change ∈ onRequest, ∀ call, alike (Except Fault Params)
        (modifyGetThe (World ν) (World.onOutside (change call)))
        (modifyGetThe (World ν) (World.onOutside (change call)))) ∧
      ∀ change ∈ onReply, ∀ method reply, alike (Except Fault Reply)
        (modifyGetThe (World ν) (World.onOutside (change method reply)))
        (modifyGetThe (World ν) (World.onOutside (change method reply)))
  | .custom onRequest onReply =>
      (∀ call, (onRequest call).Every (Hook.Step.StateAlike alike)) ∧
      ∀ method reply, (onReply method reply).Every (Hook.Step.StateAlike alike)

namespace Parallel

variable {m n : Type → Type} [Monad m] [Await m] [Monad n] [Await n] {alike : Likeness m n}
  (parallel : Parallel alike)

include parallel

theorem passing_agree : (Hooks.passing : Hooks m).Alike alike Hooks.passing :=
  ⟨fun _ _ _ call => parallel.pure_agree call.params,
    fun _ _ _ _ reply => parallel.pure_agree reply⟩

theorem authority_agree : (Authority.hooks : Hooks m).Alike alike Authority.hooks :=
  ⟨fun _ _ _ call => parallel.pure_agree call.params,
    fun _ _ _ method reply => parallel.pure_agree (Authority.reply method reply)⟩

variable [LawfulMonad m] [LawfulMonad n]

theorem nothing_agrees : StacksAlike alike ([] : List (Hooks m)) ([] : List (Hooks n)) where
  outbound _ _ _ call := by
    rw [Hooks.outbound_nil, Hooks.outbound_nil]
    exact parallel.pure_agree call
  inbound _ _ _ _ reply := by
    rw [Hooks.inbound_nil, Hooks.inbound_nil]
    exact parallel.pure_agree reply

theorem gas_agree : (Gas.hooks : Hooks m).Alike alike Gas.hooks where
  onReply _ _ _ _ reply := parallel.pure_agree reply
  onRequest channel other same call := by
    change Agree alike (Gas.fill channel call) (Gas.fill other call)
    rw [Gas.fill_eq, Gas.fill_eq]
    unfold Gas.fillAsync
    cases Gas.transaction? call with
    | none => exact parallel.pure_agree _
    | some fields =>
        apply parallel.bind_agree _ _ _ _ (parallel.lift_agree _ _ (same.send _))
        intro estimate
        apply parallel.bind_agree _ _ _ _ (parallel.lift_agree _ _ (same.send _))
        intro latest
        exact parallel.bind_agree _ _ _ _ (parallel.known_agree _) fun _ => parallel.pure_agree _

theorem fees_agree (strategy : Option Fees.Strategy) :
    (Fees.hooks strategy : Hooks m).Alike alike (Fees.hooks strategy) where
  onReply _ _ _ _ reply := parallel.pure_agree reply
  onRequest channel other same call := by
    change Agree alike (Fees.fill strategy channel call) (Fees.fill strategy other call)
    rw [Fees.fill_eq, Fees.fill_eq]
    unfold Fees.fillAsync
    split
    · split
      · exact parallel.pure_agree _
      · apply parallel.bind_agree _ _ _ _ (parallel.known_agree _)
        intro missing
        cases missing with
        | none => exact parallel.pure_agree _
        | some priority =>
            apply parallel.bind_agree _ _ _ _ (parallel.lift_agree _ _ (same.send _))
            intro latest
            exact parallel.bind_agree _ _ _ _ (parallel.known_agree _) fun _ => parallel.pure_agree _
    · exact parallel.pure_agree _

section Staleness

variable {ν μ : Type} [MonadStateOf (World ν) m] [MonadStateOf (World μ) n]
  (clocks : ClocksAlike (ν := ν) (μ := μ) alike)

include clocks

omit [LawfulMonad m] [LawfulMonad n] in
theorem fresh_agree (check : StaleCheck) (header : Header) :
    alike Bool (check.isFresh (World.now (ν := ν)) header)
      (check.isFresh (World.now (ν := μ)) header) := by
  unfold StaleCheck.isFresh
  cases header.timestamp with
  | none => exact parallel.value _ _
  | some timestamp => exact parallel.sequence _ _ _ _ _ _ clocks.now fun _ => parallel.value _ _

omit [LawfulMonad m] [LawfulMonad n] in
theorem due_agree (check : StaleCheck) (memory : Nat) (method : String) :
    alike Bool (check.isDue (World.latestBlock (ν := ν) memory) (World.now (ν := ν)) method)
      (check.isDue (World.latestBlock (ν := μ) memory) (World.now (ν := μ)) method) := by
  unfold StaleCheck.isDue
  split
  · exact parallel.value _ _
  · apply parallel.sequence _ _ _ _ _ _ (clocks.recalled memory)
    intro remembered
    cases remembered with
    | none => exact parallel.value _ _
    | some header =>
        exact parallel.sequence _ _ _ _ _ _ (parallel.fresh_agree clocks check header)
          fun _ => parallel.value _ _

theorem accept_agree (check : StaleCheck) (memory : Nat) (reply : Reply) :
    Agree alike (check.accept (World.latestBlock (ν := ν) memory) (World.now (ν := ν)) reply)
      (check.accept (World.latestBlock (ν := μ) memory) (World.now (ν := μ)) reply) := by
  unfold StaleCheck.accept
  apply parallel.bind_agree _ _ _ _ (parallel.known_agree _)
  intro header
  apply parallel.bind_agree _ _ _ _
    (parallel.lift_agree _ _ (parallel.fresh_agree clocks check header))
  intro fresh
  cases fresh with
  | false => exact parallel.throw_agree _
  | true => exact parallel.lift_agree _ _ (clocks.remembered memory (some header))

theorem staleness_agree (check : StaleCheck) (memory : Nat) :
    (check.hooks (World.latestBlock (ν := ν) memory) (World.now (ν := ν)) : Hooks m).Alike alike
      (check.hooks (World.latestBlock (ν := μ) memory) (World.now (ν := μ))) where
  onReply _ _ _ _ reply := parallel.pure_agree reply
  onRequest channel other same call := by
    change Agree alike (check.guard _ _ channel call) (check.guard _ _ other call)
    rw [StaleCheck.guard_eq, StaleCheck.guard_eq]
    apply parallel.bind_agree _ _ _ _
      (parallel.lift_agree _ _ (parallel.due_agree clocks check memory call.method))
    intro due
    cases due with
    | false => exact parallel.pure_agree _
    | true =>
        apply parallel.bind_agree _ _ _ _ (same.send _)
        intro reply
        exact parallel.bind_agree _ _ _ _ (parallel.accept_agree clocks check memory reply)
          fun _ => parallel.pure_agree _

end Staleness

omit [LawfulMonad m] [LawfulMonad n] in
theorem hook_agree {ν α : Type} [MonadStateOf (World ν) m] [MonadStateOf (World ν) n]
    (channel : Channel m) (other : Channel n) (same : channel.Alike alike other) (hook : Hook ν α)
    (states : hook.Every (Hook.Step.StateAlike alike)) :
    alike (Except Fault α) (hook.run channel) (hook.run other) := by
  induction hook with
  | done outcome => exact parallel.value _ outcome
  | step first next ih =>
      apply parallel.sequence _ _ _ _ _ _ _ fun answer => ih answer (states.2 answer)
      have alike := states.1
      cases first with
      | outside change => exact alike
      | now => exact alike
      | wait delay => exact parallel.sequence _ _ _ _ _ _ (parallel.pause .delay) fun _ => alike
      | send call => exact same.send call
      | sendBatch calls => exact same.sendBatch calls

theorem layer_agree {ν : Type} [MonadStateOf (World ν) m] [MonadStateOf (World ν) n]
    (layer : Layer ν) (states : layer.StatesAlike alike) :
    (layer.hooks : Hooks m).Alike alike layer.hooks := by
  cases layer with
  | passing => exact parallel.passing_agree
  | authority => exact parallel.authority_agree
  | gas => exact parallel.gas_agree
  | fees strategy => exact parallel.fees_agree strategy
  | staleness check memory => exact parallel.staleness_agree states check memory
  | functions onRequest onReply =>
      constructor
      · intro _ _ _ call
        cases onRequest with
        | none => exact parallel.pure_agree call.params
        | some change => exact states.1 change rfl call
      · intro _ _ _ method reply
        cases onReply with
        | none => exact parallel.pure_agree reply
        | some change => exact states.2 change rfl method reply
  | custom onRequest onReply =>
      exact ⟨fun channel other same call => parallel.hook_agree channel other same _ (states.1 call),
        fun channel other same method reply =>
          parallel.hook_agree channel other same _ (states.2 method reply)⟩

theorem append_agree (first second : List (Hooks m)) (other otherSecond : List (Hooks n))
    (before : StacksAlike alike first other) (after : StacksAlike alike second otherSecond) :
    StacksAlike alike (first ++ second) (other ++ otherSecond) where
  outbound channel otherChannel same call := by
    rw [Hooks.outbound_append, Hooks.outbound_append]
    exact parallel.bind_agree _ _ _ _ (before.outbound channel otherChannel same call)
      (after.outbound channel otherChannel same)
  inbound channel otherChannel same method reply := by
    rw [Hooks.inbound_append, Hooks.inbound_append]
    exact parallel.bind_agree _ _ _ _ (after.inbound channel otherChannel same method reply)
      (before.inbound channel otherChannel same method)

theorem single_agrees (hooks : Hooks m) (other : Hooks n) (same : hooks.Alike alike other) :
    StacksAlike alike [hooks] [other] where
  outbound channel otherChannel channels call := by
    rw [Hooks.outbound_cons, Hooks.outbound_cons]
    apply parallel.bind_agree _ _ _ _ (parallel.await_agree .hook)
    intro _
    apply parallel.bind_agree _ _ _ _ (same.onRequest channel otherChannel channels call)
    exact fun params => parallel.nothing_agrees.outbound channel otherChannel channels _
  inbound channel otherChannel channels method reply := by
    rw [Hooks.inbound_cons, Hooks.inbound_cons]
    apply parallel.bind_agree _ _ _ _
      (parallel.nothing_agrees.inbound channel otherChannel channels method reply)
    intro inner
    exact parallel.bind_agree _ _ _ _ (parallel.await_agree .hook)
      fun _ => same.onReply channel otherChannel channels method inner

theorem stack_agrees {κ : Type} (layers : List κ) (hooks : κ → Hooks m) (others : κ → Hooks n)
    (each : ∀ layer ∈ layers, (hooks layer).Alike alike (others layer)) :
    StacksAlike alike (layers.map hooks) (layers.map others) := by
  induction layers with
  | nil => exact parallel.nothing_agrees
  | cons layer rest ih =>
      obtain ⟨first, remaining⟩ := List.forall_mem_cons.mp each
      exact parallel.append_agree [hooks layer] _ [others layer] _
        (parallel.single_agrees _ _ first) (ih remaining)

section Stacks

variable (channel : Channel m) (other : Channel n) (same : channel.Alike alike other)
  (layers : List (Hooks m)) (others : List (Hooks n)) (layered : StacksAlike alike layers others)

include same layered

omit [LawfulMonad m] [LawfulMonad n] in
theorem execute_agree (call : Call) :
    Agree alike (Hooks.execute channel layers call) (Hooks.execute other others call) := by
  rw [Hooks.execute_eq, Hooks.execute_eq]
  apply parallel.bind_agree _ _ _ _ (layered.outbound channel other same call)
  intro sent
  apply parallel.bind_agree _ _ _ _ (same.send sent)
  exact layered.inbound channel other same call.method

theorem execute_batch_agree (calls : List Call) :
    Agree alike (Hooks.executeBatch channel layers calls)
      (Hooks.executeBatch other others calls) := by
  have back (paired : List (Call × Reply)) :=
    parallel.map_agree paired (fun pair => Hooks.inbound channel layers pair.1.method pair.2)
      (fun pair => Hooks.inbound other others pair.1.method pair.2)
      fun _ => layered.inbound channel other same _ _
  rw [Hooks.execute_batch_eq, Hooks.execute_batch_eq]
  apply parallel.bind_agree _ _ _ _
    (parallel.map_agree _ _ _ (layered.outbound channel other same))
  intro sent
  apply parallel.bind_agree _ _ _ _ (same.sendBatch sent)
  intro replies
  dsimp only
  split
  · exact parallel.bind_agree _ _ _ _ (parallel.throw_agree _) fun _ => back _
  · exact back _

end Stacks

end Parallel

end RequestLayer
