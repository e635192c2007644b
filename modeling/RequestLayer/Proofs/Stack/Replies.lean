import RequestLayer.Proofs.Stack.Batches

set_option autoImplicit false

namespace RequestLayer

variable {m : Type → Type} [Monad m] {α β κ : Type}

def Yields (action : ExceptT Fault m α) (value : α) : Prop :=
  ∃ effect : m Unit, action = ExceptT.lift effect >>= fun _ => pure value

section Yielding

variable [LawfulMonad m]

theorem pure_yields (value : α) : Yields (pure value : ExceptT Fault m α) value := by
  refine ⟨pure (), ?_⟩
  apply ExceptT.ext
  rw [ExceptT.run_bind_lift, pure_bind]

theorem lift_then (effect : m Unit) (next : ExceptT Fault m β) (value : β) (yields : Yields next value) :
    Yields (ExceptT.lift effect >>= fun _ => next) value := by
  obtain ⟨later, rfl⟩ := yields
  refine ⟨effect >>= fun _ => later, ?_⟩
  apply ExceptT.ext
  simp only [ExceptT.run_bind_lift, bind_assoc]

theorem then_yields (first : ExceptT Fault m α) (next : α → ExceptT Fault m β) (value : α) (result : β)
    (begins : Yields first value) (continues : Yields (next value) result) :
    Yields (first >>= next) result := by
  obtain ⟨effect, rfl⟩ := begins
  simp only [bind_assoc, pure_bind]
  exact lift_then effect (next value) result continues

theorem map_yields (values : List α) (action : α → ExceptT Fault m β) (change : α → β)
    (each : ∀ value, Yields (action value) (change value)) :
    Yields (values.mapM action) (values.map change) := by
  induction values with
  | nil => exact pure_yields []
  | cons first rest ih =>
      rw [List.mapM_cons, List.map_cons]
      apply then_yields _ _ _ _ (each first)
      exact then_yields _ _ _ _ ih (pure_yields _)

end Yielding

namespace Hooks

def Returns (layer : Hooks m) (change : String → Reply → Reply) : Prop :=
  ∀ channel method reply, Yields (layer.onReply channel method reply) (change method reply)

variable [LawfulMonad m] [Await m] (channel : Channel m) (hooks : κ → Hooks m)
  (change : κ → String → Reply → Reply)

-- What layers make of a reply, the outermost layer last.
def changed (layers : List κ) (method : String) (reply : Reply) : Reply :=
  layers.foldr (fun layer reply => change layer method reply) reply

omit [Monad m] [LawfulMonad m] [Await m] in
theorem changed_nothing (layers : List κ) (method : String) (reply : Reply) :
    changed (fun _ _ reply => reply) layers method reply = reply := by
  induction layers with
  | nil => rfl
  | cons _ _ ih => exact ih

variable (layers : List κ) (each : ∀ layer ∈ layers, (hooks layer).Returns (change layer))

include each

theorem inbound_returns (method : String) (reply : Reply) :
    Yields (inbound channel (layers.map hooks) method reply) (changed change layers method reply) := by
  induction layers with
  | nil =>
      rw [List.map_nil, inbound_nil]
      exact pure_yields reply
  | cons layer rest ih =>
      have inner := ih fun other member => each other (List.mem_cons_of_mem _ member)
      rw [List.map_cons, inbound_cons]
      apply then_yields _ _ _ _ inner
      rw [await_lifted]
      exact lift_then _ _ _ (each layer List.mem_cons_self channel method _)

theorem execute_returns (call : Call) :
    ∃ effect : Reply → m Unit, execute channel (layers.map hooks) call = (do
      let sent ← outbound channel (layers.map hooks) call
      let answer ← channel.send sent
      ExceptT.lift (effect answer)
      return changed change layers call.method answer) := by
  obtain ⟨effect, same⟩ := Classical.axiomOfChoice
    (inbound_returns channel hooks change layers each call.method)
  refine ⟨effect, ?_⟩
  simp only [execute_eq, same]

theorem execute_batch_returns (calls : List Call) :
    ∃ effect : List Reply → m Unit, executeBatch channel (layers.map hooks) calls = (do
      let sent ← calls.mapM (outbound channel (layers.map hooks))
      let answers ← channel.sendBatch sent
      if answers.length ≠ calls.length then throw (miscount answers.length calls.length)
      ExceptT.lift (effect answers)
      return (calls.zip answers).map fun (call, answer) => changed change layers call.method answer) := by
  obtain ⟨effect, same⟩ := Classical.axiomOfChoice fun answers : List Reply =>
    map_yields (calls.zip answers) _ _ fun pair =>
      inbound_returns channel hooks change layers each pair.1.method pair.2
  refine ⟨effect, ?_⟩
  simp only [execute_batch_eq, same]

end Hooks

end RequestLayer
