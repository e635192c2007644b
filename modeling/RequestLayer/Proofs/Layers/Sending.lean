import RequestLayer.Proofs.Stack.Batches

set_option autoImplicit false

namespace RequestLayer

variable {m : Type → Type} [Monad m] {α β : Type}

-- The results of the action satisfy the property: it does the same as an action that can have no other
-- results.
def Delivers (action : ExceptT Fault m α) (holds : α → Prop) : Prop :=
  ∃ outcomes : m {outcome : Except Fault α // ∀ value, outcome = .ok value → holds value},
    Subtype.val <$> outcomes = action.run

section Delivering

variable [LawfulMonad m] (holds : β → Prop)

theorem known_delivers (outcome : Except Fault β) (held : ∀ value, outcome = .ok value → holds value) :
    Delivers (ExceptT.mk (pure outcome) : ExceptT Fault m β) holds :=
  ⟨pure ⟨outcome, held⟩, map_pure _ _⟩

theorem pure_delivers (value : β) (held : holds value) :
    Delivers (pure value : ExceptT Fault m β) holds := by
  apply known_delivers holds (.ok value)
  rintro _ ⟨rfl⟩
  exact held

theorem error_delivers (fault : Fault) :
    Delivers (ExceptT.mk (pure (.error fault)) : ExceptT Fault m β) holds := by
  apply known_delivers holds (.error fault)
  intro value same
  cases same

theorem then_delivers (first : ExceptT Fault m α) (next : α → ExceptT Fault m β)
    (each : ∀ value, Delivers (next value) holds) : Delivers (first >>= next) holds := by
  have continued (outcome : Except Fault α) :
      Delivers (ExceptT.mk (pure outcome) >>= next) holds := by
    unfold Delivers
    rw [ExceptT.run_bind, ExceptT.run_mk, pure_bind]
    cases outcome with
    | ok value => exact each value
    | error fault => exact error_delivers holds fault
  obtain ⟨later, same⟩ := Classical.axiomOfChoice continued
  refine ⟨first.run >>= later, ?_⟩
  rw [map_bind, ExceptT.run_bind]
  apply bind_congr
  intro outcome
  rw [same, ExceptT.run_bind, ExceptT.run_mk, pure_bind]

theorem known_then_delivers (outcome : Except Fault α) (next : α → ExceptT Fault m β)
    (each : ∀ value, outcome = .ok value → Delivers (next value) holds) :
    Delivers (ExceptT.mk (pure outcome) >>= next) holds := by
  unfold Delivers
  rw [ExceptT.run_bind, ExceptT.run_mk, pure_bind]
  cases outcome with
  | ok value => exact each value rfl
  | error fault => exact error_delivers holds fault

theorem noting_delivers (event : Except Fault β → Event) (action : ExceptT Fault m β)
    (delivers : Delivers action holds) :
    Records (noting event action).run action.run fun outcome journal =>
      journal = [event outcome] ∧ ∀ value, outcome = .ok value → holds value := by
  obtain ⟨outcomes, same⟩ := delivers
  refine ⟨(fun outcome => ⟨(outcome.val, [event outcome.val]), rfl, outcome.property⟩) <$> outcomes,
    ?_, ?_⟩
  · rw [Functor.map_map]
    exact same
  · intro journal
    change action.run >>= _ = _
    rw [← same, Functor.map_map, bind_map_left]
    exact bind_pure_comp _ _

end Delivering

def Journal.Unsent (journal : Journal) : Prop :=
  ∀ event ∈ journal, event.place ≠ .sent ∧ event.place ≠ .sentBatch

theorem outgoing_unsent (layer count : Nat) (call : Call) (outcome : Except Fault Call)
    (journal : Journal) (outgoing : Outgoing layer count call outcome journal) :
    journal.Unsent := by
  intro event member
  obtain ⟨number, place⟩ := outgoing_place layer count call outcome journal outgoing event member
  simp [place]

theorem request_unsent (layer : Nat) (call : Call) (outcome : Except Fault Params)
    (journal : Journal) (unsent : journal.Unsent) :
    Journal.Unsent (.request layer call outcome :: journal) := by
  intro event member
  rcases List.mem_cons.mp member with rfl | late
  · simp [Event.place]
  · exact unsent event late

namespace Hooks

variable [LawfulMonad m] [Await m] (channel : Channel m) (layers : List (Hooks m))

def Makes (call : Call) (holds : Call → Prop) : Prop :=
  Records (outbound channel.journaled (journaledFrom channel 0 layers) call).run
    (outbound channel layers call).run fun outcome journal =>
      journal.Unsent ∧ ∀ sent, outcome = .ok sent → holds sent

theorem execute_sends (call : Call) (holds : Call → Prop) (makes : Makes channel layers call holds) :
    Records (execute channel.journaled (journaledFrom channel 0 layers) call).run
      (execute channel layers call).run fun _ journal =>
        ∀ sent answer, .sent sent answer ∈ journal → holds sent := by
  rw [execute_eq, execute_eq]
  apply then_records _ _ _ _ _ (fun sent _ late => ∃ answer, ∃ back : Journal,
    late = .sent sent answer :: back ∧ ∀ event ∈ back, event.place ≠ .sent) _ makes
  · intro sent
    apply noting_then_records (.sent sent) _ _ _ (fun _ _ back => ∀ event ∈ back, event.place ≠ .sent)
    · intro reply
      apply records_mono _ _ _ _ (inbound_records channel layers 0 call.method reply)
      intro outcome back inside event member
      obtain ⟨number, place⟩ := incoming_place _ _ _ _ outcome back inside event member
      simp [place]
    · exact fun fault => ⟨.error fault, [], rfl, fun _ member => absurd member List.not_mem_nil⟩
    · exact fun reply outcome back inside => ⟨.ok reply, back, rfl, inside⟩
  · rintro fault journal ⟨unsent, _⟩ sent answer member
    exact absurd rfl (unsent _ member).1
  · rintro sent out outcome _ ⟨unsent, held⟩ ⟨answer, back, rfl, after⟩ other reply member
    rcases List.mem_append.mp member with early | late
    · exact absurd rfl (unsent _ early).1
    · rcases List.mem_cons.mp late with same | inside
      · cases same
        exact held sent rfl
      · exact absurd rfl (after _ inside)

theorem execute_batch_sends (calls : List Call) (holds : Call → Call → Prop)
    (makes : ∀ call, Makes channel layers call (holds call)) :
    Records (executeBatch channel.journaled (journaledFrom channel 0 layers) calls).run
      (executeBatch channel layers calls).run fun _ journal =>
        ∀ sent answer, .sentBatch sent answer ∈ journal → List.Forall₂ holds calls sent := by
  have unsent (outcome : Except Fault (List Call)) (out : Journal)
      (prepared : Each (fun call outcome journal => journal.Unsent ∧
        ∀ sent, outcome = .ok sent → holds call sent) calls outcome out) :
      ∀ event ∈ out, event.place ≠ .sentBatch :=
    each_events _ calls outcome out prepared _ fun _ _ _ inside event member =>
      (inside.1 event member).2
  rw [execute_batch_eq, execute_batch_eq]
  apply then_records _ _ _ _ _ _ _ (map_records _ _ _ calls makes)
    (round_trip_records channel layers calls)
  · intro fault out prepared sent answer member
    exact absurd rfl (unsent _ out prepared _ member)
  · rintro sent out outcome _ prepared ⟨answer, back, rfl, returned⟩ other replies member
    rcases List.mem_append.mp member with early | late
    · exact absurd rfl (unsent _ out prepared _ early)
    · rcases List.mem_cons.mp late with same | inside
      · cases same
        exact each_forall _ calls sent out prepared holds fun _ _ _ made => made.2 _ rfl
      · exact absurd rfl (returned_no_batch _ calls _ _ back returned _ inside)

end Hooks

end RequestLayer
