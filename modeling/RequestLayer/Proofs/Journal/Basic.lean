import RequestLayer.Stack.Execution

set_option autoImplicit false

namespace RequestLayer

-- The calls that a hook makes by itself are part of the hook and have no event of their own.
inductive Event where
  | request (layer : Nat) (call : Call) (outcome : Except Fault Params)
  | sent (call : Call) (outcome : Except Fault Reply)
  | sentBatch (calls : List Call) (outcome : Except Fault (List Reply))
  | reply (layer : Nat) (method : String) (given : Reply) (outcome : Except Fault Reply)
  | slept (delay : Delay)

abbrev Journal := List Event

abbrev Journaled (m : Type → Type) := StateT Journal m

variable {m : Type → Type} [Monad m] {α β : Type}

def noting (event : Except Fault α → Event) (action : ExceptT Fault m α) :
    ExceptT Fault (Journaled m) α := ExceptT.mk fun journal => do
  let outcome ← action.run
  return (outcome, journal ++ [event outcome])

def notingDelays (sleep : Delay → m Unit) (delay : Delay) : Journaled m Unit := fun journal => do
  sleep delay
  return ((), journal ++ [.slept delay])

instance [Await m] : Await (Journaled m) where
  await? := (Await.await? : Option (AwaitPoint → m Unit)).map fun wait point =>
    StateT.lift (wait point)

def Channel.journaled (channel : Channel m) : Channel (Journaled m) where
  send call := noting (.sent call) (channel.send call)
  sendBatch calls := noting (.sentBatch calls) (channel.sendBatch calls)

def Hooks.journaled (channel : Channel m) (number : Nat) (layer : Hooks m) :
    Hooks (Journaled m) where
  onRequest _ call := noting (.request number call) (layer.onRequest channel call)
  onReply _ method reply := noting (.reply number method reply) (layer.onReply channel method reply)

def Hooks.journaledFrom (channel : Channel m) (number : Nat) :
    List (Hooks m) → List (Hooks (Journaled m))
  | [] => []
  | layer :: rest => layer.journaled channel number :: journaledFrom channel (number + 1) rest

-- `noted` does what `plain` does, and whatever comes of it, what it adds to the journal is as
-- described.
def Records (noted : Journaled m α) (plain : m α) (describes : α → Journal → Prop) : Prop :=
  ∃ entries : m {entry : α × Journal // describes entry.1 entry.2},
    (fun entry => entry.val.1) <$> entries = plain ∧
    ∀ journal, noted journal = (fun entry => (entry.val.1, journal ++ entry.val.2)) <$> entries

variable [LawfulMonad m]

theorem pure_records (value : α) (describes : α → Journal → Prop)
    (described : describes value []) :
    Records (pure value : Journaled m α) (pure value) describes := by
  refine ⟨pure ⟨(value, []), described⟩, map_pure _ _, ?_⟩
  intro journal
  simp only [map_pure, List.append_nil]
  rfl

theorem records_mono (noted : Journaled m α) (plain : m α) (describes weaker : α → Journal → Prop)
    (records : Records noted plain describes)
    (implied : ∀ value journal, describes value journal → weaker value journal) :
    Records noted plain weaker := by
  obtain ⟨entries, rfl, notes⟩ := records
  refine ⟨(fun entry => ⟨entry.val, implied _ _ entry.property⟩) <$> entries, ?_, ?_⟩
  · simp only [Functor.map_map]
  · intro journal
    simp only [Functor.map_map]
    exact notes journal

theorem bind_records (first : Journaled m α) (plain : m α) (next : α → Journaled m β)
    (plainNext : α → m β) (before : α → Journal → Prop) (after : α → β → Journal → Prop)
    (describes : β → Journal → Prop) (starts : Records first plain before)
    (continues : ∀ value, Records (next value) (plainNext value) (after value))
    (joined : ∀ value early result late, before value early → after value result late →
      describes result (early ++ late)) :
    Records (first >>= next) (plain >>= plainNext) describes := by
  obtain ⟨entries, rfl, notes⟩ := starts
  obtain ⟨later, continued⟩ := Classical.axiomOfChoice continues
  refine ⟨do
    let entry ← entries
    let last ← later entry.val.1
    return ⟨(last.val.1, entry.val.2 ++ last.val.2),
      joined _ _ _ _ entry.property last.property⟩, ?_, ?_⟩
  · simp only [map_bind, map_pure, bind_map_left]
    apply bind_congr
    intro entry
    rw [bind_pure_comp]
    exact (continued entry.val.1).1
  · intro journal
    change first journal >>= (fun entry => next entry.1 entry.2) = _
    rw [notes]
    simp only [map_bind, map_pure, bind_map_left]
    apply bind_congr
    intro entry
    rw [bind_pure_comp, (continued entry.val.1).2]
    simp only [List.append_assoc]

theorem step_records (action : m α) (event : α → Event) :
    Records (fun journal => do
        let result ← action
        return (result, journal ++ [event result]))
      action fun result journal => journal = [event result] := by
  refine ⟨(fun result => ⟨(result, [event result]), rfl⟩) <$> action, ?_, ?_⟩
  · simp only [Functor.map_map]
    exact id_map action
  · intro journal
    simp only [Functor.map_map]
    exact bind_pure_comp _ _

theorem await_journaled [Await m] (point : AwaitPoint) :
    (await point : Journaled m Unit) = fun journal => (fun _ => ((), journal)) <$> await point := by
  have inner : (Await.await? : Option (AwaitPoint → Journaled m Unit)) =
      (Await.await? : Option (AwaitPoint → m Unit)).map fun wait point =>
        StateT.lift (wait point) := rfl
  unfold await
  rw [inner]
  cases (Await.await? : Option (AwaitPoint → m Unit)) with
  | none => exact funext fun journal => (map_pure (fun _ => ((), journal)) ()).symm
  | some wait => exact funext fun journal => bind_pure_comp _ _

theorem pause_records [Await m] (point : AwaitPoint) :
    Records (await point : Journaled m Unit) (await point) fun _ journal => journal = [] := by
  rw [await_journaled]
  refine ⟨(fun _ => ⟨((), []), rfl⟩) <$> await point, ?_, ?_⟩
  · simp only [Functor.map_map]
    exact id_map _
  · intro journal
    simp only [Functor.map_map, List.append_nil]

theorem records_blocking {σ : Type} (noted : Journaled (StateM σ) α) (plain : StateM σ α)
    (describes : α → Journal → Prop) (records : Records noted plain describes) (journal : Journal)
    (state : σ) :
    ∃ added, describes (plain state).1 added ∧
      noted journal state = (((plain state).1, journal ++ added), (plain state).2) := by
  obtain ⟨entries, rfl, notes⟩ := records
  refine ⟨(entries state).1.val.2, (entries state).1.property, ?_⟩
  rw [notes]
  rfl

section Faults

theorem then_records (first : ExceptT Fault (Journaled m) α) (plain : ExceptT Fault m α)
    (next : α → ExceptT Fault (Journaled m) β) (plainNext : α → ExceptT Fault m β)
    (before : Except Fault α → Journal → Prop) (after : α → Except Fault β → Journal → Prop)
    (describes : Except Fault β → Journal → Prop) (starts : Records first.run plain.run before)
    (continues : ∀ value, Records (next value).run (plainNext value).run (after value))
    (stopped : ∀ fault journal, before (.error fault) journal → describes (.error fault) journal)
    (joined : ∀ value early outcome late, before (.ok value) early → after value outcome late →
      describes outcome (early ++ late)) :
    Records (first >>= next).run (plain >>= plainNext).run describes := by
  rw [ExceptT.run_bind, ExceptT.run_bind]
  apply bind_records _ _ _ _ before
    (fun early outcome late => (∃ value, early = .ok value ∧ after value outcome late) ∨
      ∃ fault, early = .error fault ∧ outcome = .error fault ∧ late = []) _ starts
  · intro outcome
    cases outcome with
    | ok value =>
        exact records_mono _ _ _ _ (continues value) fun _ _ rest => .inl ⟨value, rfl, rest⟩
    | error fault => exact pure_records _ _ (.inr ⟨fault, rfl, rfl, rfl⟩)
  · rintro outcome early result late reached (⟨value, rfl, rest⟩ | ⟨fault, rfl, rfl, rfl⟩)
    · exact joined value early result late reached rest
    · rw [List.append_nil]
      exact stopped fault early reached

theorem noting_then_records (event : Except Fault α → Event) (action : ExceptT Fault m α)
    (next : α → ExceptT Fault (Journaled m) β) (plainNext : α → ExceptT Fault m β)
    (after : α → Except Fault β → Journal → Prop) (describes : Except Fault β → Journal → Prop)
    (continues : ∀ value, Records (next value).run (plainNext value).run (after value))
    (stopped : ∀ fault, describes (.error fault) [event (.error fault)])
    (joined : ∀ value outcome late, after value outcome late →
      describes outcome (event (.ok value) :: late)) :
    Records (noting event action >>= next).run (action >>= plainNext).run describes := by
  apply then_records _ _ _ _ _ after _ (step_records action.run event) continues
  · rintro fault journal rfl
    exact stopped fault
  · rintro value early outcome late rfl rest
    exact joined value outcome late rest

theorem pause_then_records [Await m] (point : AwaitPoint) (next : ExceptT Fault (Journaled m) α)
    (plainNext : ExceptT Fault m α) (describes : Except Fault α → Journal → Prop)
    (continues : Records next.run plainNext.run describes) :
    Records (await point >>= fun _ => next : ExceptT Fault (Journaled m) α).run
      (await point >>= fun _ => plainNext : ExceptT Fault m α).run describes := by
  have paused : Records (await point : ExceptT Fault (Journaled m) Unit).run
      (await point : ExceptT Fault m Unit).run fun outcome journal => outcome = .ok () ∧
        journal = [] := by
    rw [await_lifted, await_lifted, ExceptT.run_lift, ExceptT.run_lift, ← bind_pure_comp,
      ← bind_pure_comp]
    apply bind_records _ _ _ _ _
      (fun _ (outcome : Except Fault Unit) journal => outcome = .ok () ∧ journal = []) _
      (pause_records point)
    · exact fun _ => pure_records _ _ ⟨rfl, rfl⟩
    · rintro _ _ _ _ rfl ⟨rfl, rfl⟩
      exact ⟨rfl, rfl⟩
  apply then_records _ _ _ _ _ (fun _ => describes) _ paused fun _ => continues
  · rintro fault journal ⟨stopped, _⟩
    cases stopped
  · rintro _ early outcome late ⟨_, rfl⟩ rest
    exact rest

end Faults

end RequestLayer
