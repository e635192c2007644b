import RequestLayer.Proofs.Stack.Hooks

set_option autoImplicit false

namespace RequestLayer

inductive Passage (count : Nat) (call : Call) : Except Fault Reply → Journal → Prop
  | refused (fault : Fault) (out : Journal) (way : Outgoing 0 count call (.error fault) out) :
      Passage count call (.error fault) out
  | unsent (sent : Call) (fault : Fault) (out : Journal)
      (way : Outgoing 0 count call (.ok sent) out) :
      Passage count call (.error fault) (out ++ [.sent sent (.error fault)])
  | answered (sent : Call) (reply : Reply) (outcome : Except Fault Reply) (out back : Journal)
      (way : Outgoing 0 count call (.ok sent) out)
      (wayBack : Incoming call.method 0 count reply outcome back) :
      Passage count call outcome (out ++ .sent sent (.ok reply) :: back)

def round (count : Nat) : List Place := requestPlaces 0 count ++ .sent :: replyPlaces 0 count

theorem passage_done (count : Nat) (call : Call) (reply : Reply) (journal : Journal)
    (passage : Passage count call (.ok reply) journal) :
    journal.Succeeds ∧ journal.places = round count := by
  cases passage with
  | answered sent given _ out back way wayBack =>
      obtain ⟨succeeded, places, _⟩ := outgoing_done 0 count call sent out way
      obtain ⟨later, replies⟩ := incoming_done call.method 0 count given reply back wayBack
      constructor
      · exact Journal.append_succeeds out _ succeeded
          (Journal.append_succeeds [_] back (Journal.single_succeeds _ rfl) later)
      · rw [round, ← places, ← replies]
        exact List.map_append

theorem passage_stopped (count : Nat) (call : Call) (fault : Fault) (journal : Journal)
    (passage : Passage count call (.error fault) journal) :
    journal.Stops fault ∧ journal.places <+: round count := by
  cases passage with
  | refused _ out way =>
      obtain ⟨stopped, places⟩ := outgoing_stopped 0 count call fault journal way
      exact ⟨stopped, places.trans (List.prefix_append _ _)⟩
  | unsent sent _ out way =>
      obtain ⟨succeeded, places, _⟩ := outgoing_done 0 count call sent out way
      constructor
      · exact Journal.append_stops fault out [_] succeeded (Journal.single_stops _ fault rfl)
      · rw [round, ← places, Journal.places, List.map_append]
        exact (List.prefix_append_right_inj _).mpr ⟨replyPlaces 0 count, rfl⟩
  | answered sent given _ out back way wayBack =>
      obtain ⟨succeeded, places, _⟩ := outgoing_done 0 count call sent out way
      obtain ⟨stopped, replies⟩ := incoming_stopped call.method 0 count given fault back wayBack
      constructor
      · exact Journal.append_stops fault out _ succeeded
          (Journal.append_stops fault [_] back (Journal.single_succeeds _ rfl) stopped)
      · rw [round, ← places, Journal.places, List.map_append]
        exact (List.prefix_append_right_inj _).mpr ((List.prefix_cons_inj _).mpr replies)

namespace Hooks

variable {m : Type → Type} [Monad m] [Await m]

-- A layer around whatever answers calls inside it.
def around (channel : Channel m) (layer : Hooks m) (inside : Call → ExceptT Fault m Reply)
    (call : Call) : ExceptT Fault m Reply := do
  await .hook
  let params ← layer.onRequest channel call
  let reply ← inside { call with params }
  await .hook
  layer.onReply channel call.method reply

def enclosed (channel : Channel m) (layers : List (Hooks m))
    (inside : Call → ExceptT Fault m Reply) : Call → ExceptT Fault m Reply :=
  layers.foldr (around channel) inside

variable [LawfulMonad m]

theorem execute_nil (channel : Channel m) : execute channel [] = channel.send := by
  funext call
  simp only [execute_eq, outbound_nil, inbound_nil, pure_bind, bind_pure]

theorem execute_cons (channel : Channel m) (layer : Hooks m) (rest : List (Hooks m)) :
    execute channel (layer :: rest) = layer.around channel (execute channel rest) := by
  funext call
  simp only [execute_eq, around, outbound_cons, inbound_cons, bind_assoc]

theorem execute_append (channel : Channel m) (outer inner : List (Hooks m)) :
    execute channel (outer ++ inner) = enclosed channel outer (execute channel inner) := by
  induction outer with
  | nil => rfl
  | cons layer rest ih =>
      rw [List.cons_append, execute_cons, ih]
      rfl

theorem execute_records (channel : Channel m) (layers : List (Hooks m)) (call : Call) :
    Records (execute channel.journaled (journaledFrom channel 0 layers) call).run
      (execute channel layers call).run (Passage layers.length call) := by
  rw [execute_eq, execute_eq]
  apply then_records _ _ _ _ _ (fun sent outcome late =>
      (∃ fault, outcome = .error fault ∧ late = [.sent sent (.error fault)]) ∨
      ∃ reply back, late = .sent sent (.ok reply) :: back ∧
        Incoming call.method 0 layers.length reply outcome back) _
    (outbound_records channel layers 0 call)
  · intro sent
    apply noting_then_records (.sent sent)
    · exact inbound_records channel layers 0 call.method
    · exact fun fault => .inl ⟨fault, rfl, rfl⟩
    · exact fun reply outcome back wayBack => .inr ⟨reply, back, rfl, wayBack⟩
  · exact fun fault out way => .refused fault out way
  · rintro sent out outcome late way (⟨fault, rfl, rfl⟩ | ⟨reply, back, rfl, wayBack⟩)
    · exact .unsent sent fault out way
    · exact .answered sent reply outcome out back way wayBack

-- The equations hold in every monad, so of the results and of all that the hooks and the node do. If a
-- call comes back, all hooks have run, in order; otherwise what has run is a beginning of that, up to
-- the step that failed, and its fault is the outcome.
theorem execute_nested (channel : Channel m) :
    (∀ call, execute channel [] call = channel.send call) ∧
    (∀ layer rest call, execute channel (layer :: rest) call = (do
      await .hook
      let params ← layer.onRequest channel call
      let reply ← execute channel rest { call with params }
      await .hook
      layer.onReply channel call.method reply)) ∧
    (∀ outer inner call, execute channel (outer ++ inner) call =
      enclosed channel outer (execute channel inner) call) ∧
    ∀ layers call,
      Records (execute channel.journaled (journaledFrom channel 0 layers) call).run
        (execute channel layers call).run fun outcome journal =>
          Passage layers.length call outcome journal ∧
          (∀ reply, outcome = .ok reply →
            journal.Succeeds ∧ journal.places = round layers.length) ∧
          ∀ fault, outcome = .error fault →
            journal.Stops fault ∧ journal.places <+: round layers.length := by
  refine ⟨congrFun (execute_nil channel), fun layer rest => congrFun (execute_cons channel layer rest),
    fun outer inner => congrFun (execute_append channel outer inner), ?_⟩
  intro layers call
  apply records_mono _ _ _ _ (execute_records channel layers call)
  intro outcome journal passage
  refine ⟨passage, ?_, ?_⟩
  · rintro reply rfl
    exact passage_done layers.length call reply journal passage
  · rintro fault rfl
    exact passage_stopped layers.length call fault journal passage

def countingChannel : Channel (StateM Nat) where
  send call := ExceptT.mk fun count => (.ok (.success (.string call.method)), count + 1)
  sendBatch calls := ExceptT.mk fun count =>
    (.ok (calls.map fun call => .success (.string call.method)), count + 1)

def countingLayer : Hooks (StateM Nat) where
  onRequest _ call := ExceptT.mk fun count => (.ok call.params, count + 1)
  onReply _ _ reply := ExceptT.mk fun count => (.ok reply, count + 1)

def closedLayer : Hooks (StateM Nat) := { countingLayer with onRequest := fun _ _ => throw .mixedFees }

-- Of three layers the second refuses the call: the first has counted once, and nothing else has run.
theorem execute_nested_refused :
    ∃ journal : Journal, journal.Stops .mixedFees ∧ journal.places = [.request 0, .request 1] ∧
      (execute countingChannel.journaled
        (journaledFrom countingChannel 0 [countingLayer, closedLayer, countingLayer])
        ⟨"eth_call", []⟩).run [] 0 = ((.error .mixedFees, journal), 1) := by
  obtain ⟨journal, ⟨_, _, stopped⟩, run⟩ := records_blocking _ _ _
    ((execute_nested countingChannel).2.2.2 [countingLayer, closedLayer, countingLayer]
      ⟨"eth_call", []⟩) [] 0
  refine ⟨journal, (stopped .mixedFees rfl).1, ?_, run⟩
  exact (congrArg (fun done => Journal.places done.1.2) run).symm

end Hooks

end RequestLayer
