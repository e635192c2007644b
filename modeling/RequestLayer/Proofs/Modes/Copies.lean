import RequestLayer.Client.Batch

set_option autoImplicit false

namespace RequestLayer

variable {m : Type → Type} [Monad m]

theorem pushed_results [LawfulMonad m] {α β γ : Type} (items : List α)
    (action : α → ExceptT Fault m β) (next : List β → ExceptT Fault m γ) :
    (do
      let mut done := #[]
      for item in items do
        done := done.push (← action item)
      next done.toList) = items.mapM action >>= next := by
  simp only [bind_pure_comp, List.forIn_yield_eq_foldlM, List.foldlM_push_eq_append,
    List.append_toArray, List.nil_append, bind_map_left]

variable [Await m]

namespace Hooks

variable (channel : Channel m) (layers : List (Hooks m))

theorem execute_eq (call : Call) :
    execute channel layers call = (do
      let sent ← outbound channel layers call
      let reply ← channel.send sent
      inbound channel layers call.method reply) := by
  unfold execute outbound inbound inMode
  cases (Await.await? : Option (AwaitPoint → m Unit)) <;> rfl

variable [LawfulMonad m]

theorem outbound_eq (call : Call) :
    outbound channel layers call = layers.foldlM (fun call layer => do
      await .hook
      return { call with params := ← layer.onRequest channel call }) call := by
  apply inMode_eq
  · intro blocking
    unfold outboundBlocking
    congr 1
    funext call layer
    exact (await_then .hook blocking _).symm
  · rfl

theorem inbound_eq (method : String) (reply : Reply) :
    inbound channel layers method reply = layers.reverse.foldlM (fun reply layer => do
      await .hook
      layer.onReply channel method reply) reply := by
  apply inMode_eq
  · intro blocking
    unfold inboundBlocking
    congr 1
    funext reply layer
    exact (await_then .hook blocking _).symm
  · rfl

@[simp] theorem outbound_nil (call : Call) : outbound channel [] call = pure call := by
  rw [outbound_eq]
  rfl

@[simp] theorem inbound_nil (method : String) (reply : Reply) :
    inbound channel [] method reply = pure reply := by
  rw [inbound_eq]
  rfl

theorem outbound_cons (layer : Hooks m) (rest : List (Hooks m)) (call : Call) :
    outbound channel (layer :: rest) call = (do
      await .hook
      let params ← layer.onRequest channel call
      outbound channel rest { call with params }) := by
  simp only [outbound_eq, List.foldlM_cons, bind_assoc, pure_bind]

theorem inbound_cons (layer : Hooks m) (rest : List (Hooks m)) (method : String) (reply : Reply) :
    inbound channel (layer :: rest) method reply = (do
      let inner ← inbound channel rest method reply
      await .hook
      layer.onReply channel method inner) := by
  simp only [inbound_eq, List.reverse_cons, List.foldlM_append, List.foldlM_cons, List.foldlM_nil,
    bind_pure]

theorem outbound_append (first second : List (Hooks m)) (call : Call) :
    outbound channel (first ++ second) call =
      outbound channel first call >>= outbound channel second := by
  rw [outbound_eq, outbound_eq, List.foldlM_append]
  exact bind_congr fun sent => (outbound_eq channel second sent).symm

theorem inbound_append (first second : List (Hooks m)) (method : String) (reply : Reply) :
    inbound channel (first ++ second) method reply =
      inbound channel second method reply >>= inbound channel first method := by
  rw [inbound_eq, inbound_eq, List.reverse_append, List.foldlM_append]
  exact bind_congr fun reply => (inbound_eq channel first method reply).symm

omit [Await m] in
theorem execute_batch_blocking_eq (calls : List Call) :
    executeBatchBlocking channel layers calls = (do
      let sent ← calls.mapM (outboundBlocking channel layers)
      let replies ← channel.sendBatch sent
      if replies.length ≠ calls.length then throw (miscount replies.length calls.length)
      (calls.zip replies).mapM fun (call, reply) =>
        inboundBlocking channel layers call.method reply) := by
  rw [← pushed_results]
  rfl

theorem execute_batch_async_eq (calls : List Call) :
    executeBatchAsync channel layers calls = (do
      let sent ← calls.mapM (outboundAsync channel layers)
      let replies ← channel.sendBatch sent
      if replies.length ≠ calls.length then throw (miscount replies.length calls.length)
      (calls.zip replies).mapM fun (call, reply) =>
        inboundAsync channel layers call.method reply) := by
  have back (replies : List Reply) : _ = (calls.zip replies).mapM fun (call, reply) =>
      inboundAsync channel layers call.method reply :=
    (pushed_results (calls.zip replies)
      (fun (call, reply) => inboundAsync channel layers call.method reply) pure).trans (bind_pure _)
  simp only [← back]
  rw [← pushed_results]
  rfl

theorem execute_batch_eq (calls : List Call) :
    executeBatch channel layers calls = (do
      let sent ← calls.mapM (outbound channel layers)
      let replies ← channel.sendBatch sent
      if replies.length ≠ calls.length then throw (miscount replies.length calls.length)
      (calls.zip replies).mapM fun (call, reply) =>
        inbound channel layers call.method reply) := by
  unfold executeBatch outbound inbound inMode
  cases (Await.await? : Option (AwaitPoint → m Unit)) with
  | none => exact execute_batch_blocking_eq channel layers calls
  | some wait => exact execute_batch_async_eq channel layers calls

end Hooks

namespace Retry

variable (sleep : m Unit) {α : Type} (action : ExceptT Fault m α)

theorem repeated_zero : repeated sleep action 0 = action := by
  unfold repeated inMode
  cases (Await.await? : Option (AwaitPoint → m Unit)) <;> rfl

theorem repeated_succ [LawfulMonad m] (more : Nat) :
    repeated sleep action (more + 1) = ExceptT.mk do
      match ← action.run with
      | .error fault =>
          if fault.isTransport then
            await .delay
            sleep
            (repeated sleep action more).run
          else return .error fault
      | .ok value => return .ok value := by
  unfold repeated inMode
  cases mode : (Await.await? : Option (AwaitPoint → m Unit)) with
  | none =>
      refine congrArg ExceptT.mk (bind_congr fun outcome => ?_)
      cases outcome with
      | ok value => rfl
      | error fault =>
          dsimp only
          rw [await_passes .delay mode, pure_bind]
  | some wait => rfl

end Retry

namespace Freshness.Rule

def headerNumber? (channel : Channel m) (call : Call) : m (Option Nat) := do
  return blockNumber? (← (channel.send call).run)

def anchorNumber? (channel : Channel m) : Anchor → m (Option Nat)
  | .number value => return some value
  | .hash value => headerNumber? channel (.headerByHash value)

theorem allows_eq [LawfulMonad m] (rule : Rule) (channel : Channel m) (call : Call)
    (result : Option Json) :
    rule.allows channel call result = (do
      match rule.verdict call result with
      | .settled allowed => return allowed
      | .depends threshold anchor =>
          let some number ← anchorNumber? channel anchor | return false
          let some limit ← headerNumber? channel (.header threshold.tag) | return false
          return number ≤ limit) := by
  have same : rule.allows channel call result = rule.allowsAsync channel call result :=
    inMode_eq _ _ _ (fun _ => rfl) rfl
  rw [same]
  unfold allowsAsync
  cases rule.verdict call result with
  | settled allowed => rfl
  | depends threshold anchor =>
      have limited (number : Nat) :
          (do
            let answer ← (channel.send (.header threshold.tag)).run
            let some limit := blockNumber? answer | return false
            return number ≤ limit) =
          (do
            let some limit ← headerNumber? channel (.header threshold.tag) | return false
            return number ≤ limit : m Bool) := by
        rw [headerNumber?, bind_assoc]
        refine bind_congr fun answer => ?_
        rw [pure_bind]
      cases anchor with
      | number value =>
          dsimp only [anchorNumber?]
          rw [pure_bind, pure_bind]
          exact limited value
      | hash value =>
          dsimp only [anchorNumber?, headerNumber?]
          rw [bind_assoc]
          refine bind_congr fun answer => ?_
          rw [pure_bind, pure_bind]
          cases blockNumber? answer with
          | none => rfl
          | some number => exact limited number

end Freshness.Rule

theorem Gas.fill_eq (channel : Channel m) (call : Call) :
    Gas.fill channel call = Gas.fillAsync channel call :=
  inMode_eq _ _ _ (fun _ => rfl) rfl

theorem Fees.fill_eq (strategy : Option Fees.Strategy) (channel : Channel m) (call : Call) :
    Fees.fill strategy channel call = Fees.fillAsync strategy channel call :=
  inMode_eq _ _ _ (fun _ => rfl) rfl

theorem StaleCheck.guard_eq (check : StaleCheck) (latest : Cell m (Option Header)) (now : m Nat)
    (channel : Channel m) (call : Call) :
    check.guard latest now channel call = check.guardAsync latest now channel call :=
  inMode_eq _ _ _ (fun _ => rfl) rfl

variable {ν : Type} [MonadStateOf (World ν) m]

theorem Caching.keep_eq (caching : Caching) (channel : Channel m) (fingerprint : Fingerprint)
    (call : Call) (result : Json) :
    caching.keep (ν := ν) channel fingerprint call result = (do
      if ← caching.rule.allows channel call (some result) then
        match caching.store with
        | some store => discard (World.writeStore (ν := ν) store fingerprint result)
        | none => return) := by
  unfold keep Freshness.Rule.allows inMode
  cases (Await.await? : Option (AwaitPoint → m Unit)) <;> rfl

namespace Client

variable (client : Client ν) (node : Node ν)

theorem resolve_eq (call : Call) :
    (client.resolve node call : ExceptT Fault m Json) = (do
      let reply ← Hooks.execute (client.channel node) (client.stack.items.map Layer.hooks) call
      ExceptT.mk (pure reply.outcome)) := by
  unfold resolve Hooks.execute inMode
  cases (Await.await? : Option (AwaitPoint → m Unit)) <;> rfl

theorem request_eq (context : Context) (call : Call) :
    (client.request node context call : ExceptT Fault m Json) = (do
      let caching ← client.caching
      match caching.fingerprint? context call with
      | none => client.resolve node call
      | some fingerprint =>
          match ← caching.find? (ν := ν) fingerprint with
          | some response => return response
          | none =>
              let result ← client.resolve node call
              let caching ← client.caching
              caching.keep (ν := ν) (m := m) (client.channel node) fingerprint call result
              return result) := by
  unfold request resolve Caching.keep inMode
  cases (Await.await? : Option (AwaitPoint → m Unit)) <;> rfl

theorem request_batch_eq (calls : List Call) :
    (client.requestBatch node calls : ExceptT Fault m (List (Except Fault Json))) = (do
      let replies ←
        Hooks.executeBatch (client.channel node) (client.stack.items.map Layer.hooks) calls
      return replies.map Reply.outcome) := by
  unfold requestBatch Hooks.executeBatch inMode
  cases (Await.await? : Option (AwaitPoint → m Unit)) <;> rfl

theorem execute_batch_eq (batch : Batch) :
    (client.executeBatch node batch : ExceptT Fault m (List (Except Fault Json))) =
      ExceptT.mk (do
        let outcome ← (client.requestBatch node batch.calls).run
        client.setBuilding (m := m) false
        return outcome) := by
  unfold executeBatch requestBatch inMode
  cases (Await.await? : Option (AwaitPoint → m Unit)) <;> rfl

end Client

end RequestLayer
