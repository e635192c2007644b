import RequestLayer.Proofs.Parallel.Hooks

set_option autoImplicit false

namespace RequestLayer

theorem discarded {m : Type → Type} [Monad m] [LawfulMonad m] {α : Type} (action : m α) :
    discard action = action >>= fun _ => pure () := by
  rw [Functor.discard, LawfulFunctor.map_const, Function.comp_apply, ← bind_pure_comp]

section Reading

variable {ν : Type} {m : Type → Type} [Monad m] [LawfulMonad m] [MonadStateOf (World ν) m]

theorem read_lifted {α : Type} (view : World ν → α) :
    (do return view (← getThe (World ν)) : ExceptT Fault m α) =
      ExceptT.lift (do return view (← getThe (World ν))) := by
  have inner : (getThe (World ν) : ExceptT Fault m (World ν)).run =
      Except.ok <$> (getThe (World ν) : m (World ν)) := rfl
  apply ExceptT.ext
  rw [bind_pure_comp, bind_pure_comp, ExceptT.run_map, ExceptT.run_lift, inner,
    Functor.map_map, Functor.map_map]
  rfl

theorem client_lifted (id : Nat) :
    (World.readClient (ν := ν) id : ExceptT Fault m ClientState) =
      ExceptT.lift (World.readClient (ν := ν) id) :=
  read_lifted fun world => world.clients.read id

theorem caching_lifted (client : Client ν) :
    (client.caching : ExceptT Fault m Caching) = ExceptT.lift client.caching := by
  unfold Client.caching World.readClient
  simp only [bind_assoc, pure_bind]
  exact read_lifted fun world => (world.clients.read client.id).caching

theorem find_lifted (caching : Caching) (fingerprint : Fingerprint) :
    (caching.find? (ν := ν) fingerprint : ExceptT Fault m (Option Json)) =
      ExceptT.lift (caching.find? (ν := ν) fingerprint) := by
  unfold Caching.find? World.readStore
  cases caching.store with
  | none =>
      apply ExceptT.ext
      simp
  | some store =>
      simp only [bind_assoc, pure_bind]
      exact read_lifted fun world => (world.stores.read store).get? fingerprint

end Reading

structure Client.Alike {m n : Type → Type} {ν μ : Type} [Monad m] [Await m] [Monad n] [Await n]
    [MonadStateOf (World ν) m] [MonadStateOf (World μ) n] (alike : Likeness m n)
    (client : Client ν) (node : Node ν) (other : Client μ) (otherNode : Node μ) : Prop where
  id : client.id = other.id
  retry : client.retry = other.retry
  channel : (node.channel : Channel m).Alike alike otherNode.channel
  stack : StacksAlike alike (client.stack.items.map Layer.hooks) (other.stack.items.map Layer.hooks)

namespace Parallel

variable {m n : Type → Type} [Monad m] [LawfulMonad m] [Await m] [Monad n] [LawfulMonad n]
  [Await n] {alike : Likeness m n} (parallel : Parallel alike)

include parallel

section Rules

variable (channel : Channel m) (other : Channel n) (same : channel.Alike alike other)

include same

omit [LawfulMonad m] [LawfulMonad n] in
theorem header_number_agree (call : Call) :
    alike (Option Nat) (Freshness.Rule.headerNumber? channel call)
      (Freshness.Rule.headerNumber? other call) :=
  parallel.sequence _ _ _ _ _ _ (same.send call) fun _ => parallel.value _ _

theorem allows_agree (rule : Freshness.Rule) (call : Call) (result : Option Json) :
    alike Bool (rule.allows channel call result) (rule.allows other call result) := by
  rw [Freshness.Rule.allows_eq, Freshness.Rule.allows_eq]
  cases rule.verdict call result with
  | settled allowed => exact parallel.value _ _
  | depends threshold anchor =>
      apply parallel.sequence
      · cases anchor with
        | number value => exact parallel.value _ _
        | hash value => exact parallel.header_number_agree channel other same _
      · intro found
        cases found with
        | none => exact parallel.value _ _
        | some number =>
            apply parallel.sequence _ _ _ _ _ _ (parallel.header_number_agree channel other same _)
            intro limit
            cases limit with
            | none => exact parallel.value _ _
            | some block => exact parallel.value _ _

end Rules

section Clients

variable {ν μ : Type} [MonadStateOf (World ν) m] [MonadStateOf (World μ) n] (client : Client ν)
  (node : Node ν) (other : Client μ) (otherNode : Node μ)

section Sending

variable (sleeping : ∀ delay,
    alike Unit (World.sleep (ν := ν) delay) (World.sleep (ν := μ) delay))
  (same : client.Alike alike node other otherNode)

include sleeping same

theorem client_channel_agree :
    (client.channel node : Channel m).Alike alike (other.channel otherNode) := by
  unfold Client.channel
  rw [← same.retry]
  cases client.retry with
  | none => exact same.channel
  | some retry => exact parallel.retry_channel_agree retry _ _ _ _ sleeping same.channel

theorem resolve_agree (call : Call) :
    Agree alike (client.resolve node call) (other.resolve otherNode call) := by
  rw [Client.resolve_eq, Client.resolve_eq]
  exact parallel.bind_agree _ _ _ _
    (parallel.execute_agree _ _
      (parallel.client_channel_agree client node other otherNode sleeping same) _ _ same.stack call)
    fun _ => parallel.known_agree _

theorem request_batch_agree (calls : List Call) :
    Agree alike (client.requestBatch node calls) (other.requestBatch otherNode calls) := by
  rw [Client.request_batch_eq, Client.request_batch_eq]
  exact parallel.bind_agree _ _ _ _
    (parallel.execute_batch_agree _ _
      (parallel.client_channel_agree client node other otherNode sleeping same) _ _ same.stack calls)
    fun _ => parallel.pure_agree _

end Sending

variable (worlds : WorldsAlike (ν := ν) (μ := μ) alike)

include worlds

theorem keep_agree (caching : Caching) (channel : Channel m) (otherChannel : Channel n)
    (same : channel.Alike alike otherChannel) (fingerprint : Fingerprint) (call : Call)
    (result : Json) :
    alike Unit (caching.keep (ν := ν) channel fingerprint call result)
      (caching.keep (ν := μ) otherChannel fingerprint call result) := by
  rw [Caching.keep_eq, Caching.keep_eq]
  apply parallel.sequence _ _ _ _ _ _
    (parallel.allows_agree channel otherChannel same caching.rule call (some result))
  intro allowed
  cases allowed with
  | false => exact parallel.value _ _
  | true =>
      cases caching.store with
      | none => exact parallel.value _ _
      | some store =>
          dsimp only [if_true]
          rw [discarded, discarded]
          exact parallel.sequence _ _ _ _ _ _ (worlds.stored store fingerprint result)
            fun _ => parallel.value _ _

theorem find_agree (caching : Caching) (fingerprint : Fingerprint) :
    Agree alike (caching.find? (ν := ν) fingerprint) (caching.find? (ν := μ) fingerprint) := by
  rw [find_lifted, find_lifted]
  apply parallel.lift_agree
  unfold Caching.find?
  cases caching.store with
  | none => exact parallel.value _ _
  | some store =>
      exact parallel.sequence _ _ _ _ _ _ (worlds.found store) fun _ => parallel.value _ _

variable (same : client.Alike alike node other otherNode)

include same

theorem caching_agree :
    Agree alike (client.caching : ExceptT Fault m Caching)
      (other.caching : ExceptT Fault n Caching) := by
  rw [caching_lifted, caching_lifted]
  apply parallel.lift_agree
  unfold Client.caching
  rw [← same.id]
  exact parallel.sequence _ _ _ _ _ _ (worlds.client client.id) fun _ => parallel.value _ _

theorem request_agree (context : Context) (call : Call) :
    Agree alike (client.request node context call) (other.request otherNode context call) := by
  rw [Client.request_eq, Client.request_eq]
  have channels := parallel.client_channel_agree client node other otherNode worlds.sleep same
  have resolved := parallel.resolve_agree client node other otherNode worlds.sleep same call
  have found := parallel.caching_agree client node other otherNode worlds same
  apply parallel.bind_agree _ _ _ _ found
  intro caching
  cases caching.fingerprint? context call with
  | none => exact resolved
  | some fingerprint =>
      apply parallel.bind_agree _ _ _ _ (parallel.find_agree worlds caching fingerprint)
      intro stored
      cases stored with
      | some response => exact parallel.pure_agree response
      | none =>
          apply parallel.bind_agree _ _ _ _ resolved
          intro result
          apply parallel.bind_agree _ _ _ _ found
          intro later
          exact parallel.bind_agree _ _ _ _
            (parallel.lift_agree _ _
              (parallel.keep_agree worlds later _ _ channels fingerprint call result))
            fun _ => parallel.pure_agree result

theorem built_batch_agree (batch : Batch) :
    Agree alike (client.executeBatch node batch) (other.executeBatch otherNode batch) := by
  have sent :=
    parallel.request_batch_agree client node other otherNode worlds.sleep same batch.calls
  rw [Client.execute_batch_eq, Client.execute_batch_eq]
  apply parallel.sequence _ _ _ _ _ _ sent
  intro outcome
  unfold Client.setBuilding
  rw [← same.id]
  exact parallel.sequence _ _ _ _ _ _ (worlds.changed client.id _) fun _ => parallel.value _ _

theorem open_batch_agree : Agree alike client.openBatch other.openBatch := by
  unfold Client.openBatch Client.setBuilding
  rw [client_lifted, client_lifted, ← same.id]
  have opened := parallel.bind_agree _ _ _ _
    (parallel.lift_agree _ _
      (worlds.changed client.id fun state => { state with building := true }))
    fun _ => parallel.pure_agree (Batch.mk [])
  apply parallel.bind_agree _ _ _ _ (parallel.lift_agree _ _ (worlds.client client.id))
  intro state
  cases state.building with
  | true => exact parallel.bind_agree _ _ _ _ (parallel.throw_agree _) fun _ => opened
  | false => exact opened

end Clients

end Parallel

end RequestLayer
