import RequestLayer.Proofs.Journal.Basic
import RequestLayer.Proofs.Modes.Copies

set_option autoImplicit false

namespace RequestLayer

inductive Place where
  | request (layer : Nat)
  | sent
  | sentBatch
  | reply (layer : Nat)
  | slept
deriving DecidableEq

namespace Event

def place : Event → Place
  | .request layer _ _ => .request layer
  | .sent _ _ => .sent
  | .sentBatch _ _ => .sentBatch
  | .reply layer _ _ _ => .reply layer
  | .slept _ => .slept

def faultOf {α : Type} : Except Fault α → Option Fault
  | .ok _ => none
  | .error fault => some fault

def fault? : Event → Option Fault
  | .request _ _ outcome => faultOf outcome
  | .sent _ outcome => faultOf outcome
  | .sentBatch _ outcome => faultOf outcome
  | .reply _ _ _ outcome => faultOf outcome
  | .slept _ => none

end Event

namespace Journal

def places (journal : Journal) : List Place := journal.map Event.place

def Succeeds (journal : Journal) : Prop := ∀ event ∈ journal, event.fault? = none

def Stops (fault : Fault) (journal : Journal) : Prop :=
  ∃ done last, journal = done ++ [last] ∧ Succeeds done ∧ last.fault? = some fault

theorem append_succeeds (first second : Journal) (before : first.Succeeds)
    (after : second.Succeeds) : Journal.Succeeds (first ++ second) := by
  intro event member
  rcases List.mem_append.mp member with early | late
  · exact before event early
  · exact after event late

theorem append_stops (fault : Fault) (first second : Journal) (before : first.Succeeds)
    (after : second.Stops fault) : Journal.Stops fault (first ++ second) := by
  obtain ⟨done, last, rfl, succeeded, failed⟩ := after
  exact ⟨first ++ done, last, (List.append_assoc _ _ _).symm,
    append_succeeds first done before succeeded, failed⟩

theorem single_succeeds (event : Event) (well : event.fault? = none) :
    Journal.Succeeds [event] := by
  intro other member
  rw [List.mem_singleton.mp member]
  exact well

theorem single_stops (event : Event) (fault : Fault) (failed : event.fault? = some fault) :
    Journal.Stops fault [event] :=
  ⟨[], event, rfl, fun _ member => absurd member List.not_mem_nil, failed⟩

end Journal

-- What the request hooks of `count` layers do with a call, from the layer with a number inwards. Each
-- is given the parameters that the one outside it has returned.
inductive Outgoing : (layer count : Nat) → Call → Except Fault Call → Journal → Prop
  | through (layer : Nat) (call : Call) : Outgoing layer 0 call (.ok call) []
  | refused (layer count : Nat) (call : Call) (fault : Fault) :
      Outgoing layer (count + 1) call (.error fault) [.request layer call (.error fault)]
  | next (layer count : Nat) (call : Call) (params : Params) (outcome : Except Fault Call)
      (journal : Journal) (rest : Outgoing (layer + 1) count { call with params } outcome journal) :
      Outgoing layer (count + 1) call outcome (.request layer call (.ok params) :: journal)

inductive Incoming (method : String) :
    (layer count : Nat) → Reply → Except Fault Reply → Journal → Prop
  | through (layer : Nat) (reply : Reply) : Incoming method layer 0 reply (.ok reply) []
  | stopped (layer count : Nat) (reply : Reply) (fault : Fault) (journal : Journal)
      (inside : Incoming method (layer + 1) count reply (.error fault) journal) :
      Incoming method layer (count + 1) reply (.error fault) journal
  | next (layer count : Nat) (reply inner : Reply) (outcome : Except Fault Reply)
      (journal : Journal) (inside : Incoming method (layer + 1) count reply (.ok inner) journal) :
      Incoming method layer (count + 1) reply outcome
        (journal ++ [.reply layer method inner outcome])

def requestPlaces (layer count : Nat) : List Place := (List.range' layer count).map .request

def replyPlaces (layer count : Nat) : List Place := ((List.range' layer count).map .reply).reverse

theorem reply_places_succ (layer count : Nat) :
    replyPlaces layer (count + 1) = replyPlaces (layer + 1) count ++ [.reply layer] := by
  simp only [replyPlaces, List.range'_succ, List.map_cons, List.reverse_cons]

theorem outgoing_done (layer count : Nat) (call sent : Call) (journal : Journal)
    (outgoing : Outgoing layer count call (.ok sent) journal) :
    journal.Succeeds ∧ journal.places = requestPlaces layer count ∧ sent.method = call.method := by
  generalize reached : Except.ok sent = outcome at outgoing
  induction outgoing with
  | through layer call =>
      cases reached
      exact ⟨fun _ member => absurd member List.not_mem_nil, rfl, rfl⟩
  | refused => cases reached
  | next layer count call params outcome journal rest ih =>
      obtain ⟨succeeded, places, method⟩ := ih reached
      refine ⟨?_, ?_, method⟩
      · exact Journal.append_succeeds [_] journal (Journal.single_succeeds _ rfl) succeeded
      · exact congrArg (Place.request layer :: ·) places

theorem outgoing_stopped (layer count : Nat) (call : Call) (fault : Fault) (journal : Journal)
    (outgoing : Outgoing layer count call (.error fault) journal) :
    journal.Stops fault ∧ journal.places <+: requestPlaces layer count := by
  generalize reached : Except.error fault = outcome at outgoing
  induction outgoing with
  | through => cases reached
  | refused layer count call fault =>
      cases reached
      exact ⟨Journal.single_stops _ fault rfl, requestPlaces (layer + 1) count, rfl⟩
  | next layer count call params outcome journal rest ih =>
      obtain ⟨stopped, places⟩ := ih reached
      constructor
      · exact Journal.append_stops fault [_] journal (Journal.single_succeeds _ rfl) stopped
      · exact (List.prefix_cons_inj _).mpr places

theorem incoming_done (method : String) (layer count : Nat) (reply result : Reply)
    (journal : Journal) (incoming : Incoming method layer count reply (.ok result) journal) :
    journal.Succeeds ∧ journal.places = replyPlaces layer count := by
  generalize reached : Except.ok result = outcome at incoming
  induction incoming generalizing result with
  | through => exact ⟨fun _ member => absurd member List.not_mem_nil, rfl⟩
  | stopped => cases reached
  | next layer count reply inner outcome journal inside ih =>
      obtain ⟨succeeded, places⟩ := ih inner rfl
      cases reached
      constructor
      · exact Journal.append_succeeds journal [_] succeeded (Journal.single_succeeds _ rfl)
      · rw [reply_places_succ, ← places]
        exact List.map_append

theorem incoming_stopped (method : String) (layer count : Nat) (reply : Reply) (fault : Fault)
    (journal : Journal) (incoming : Incoming method layer count reply (.error fault) journal) :
    journal.Stops fault ∧ journal.places <+: replyPlaces layer count := by
  generalize reached : Except.error fault = outcome at incoming
  induction incoming with
  | through => cases reached
  | stopped layer count reply other journal inside ih =>
      obtain ⟨stopped, places⟩ := ih reached
      rw [reply_places_succ]
      exact ⟨stopped, places.trans (List.prefix_append _ _)⟩
  | next layer count reply inner outcome journal inside ih =>
      obtain ⟨succeeded, places⟩ := incoming_done method _ _ _ inner journal inside
      cases reached
      constructor
      · exact Journal.append_stops fault journal [_] succeeded (Journal.single_stops _ fault rfl)
      · rw [reply_places_succ, ← places, Journal.places, List.map_append]
        exact List.prefix_rfl

namespace Hooks

variable {m : Type → Type} [Monad m] [LawfulMonad m] [Await m]

theorem outbound_records (channel : Channel m) (layers : List (Hooks m)) (number : Nat)
    (call : Call) :
    Records (outbound channel.journaled (journaledFrom channel number layers) call).run
      (outbound channel layers call).run (Outgoing number layers.length call) := by
  induction layers generalizing number call with
  | nil =>
      rw [journaledFrom, outbound_nil, outbound_nil]
      exact pure_records _ _ (.through number call)
  | cons layer rest ih =>
      rw [journaledFrom, outbound_cons, outbound_cons]
      apply pause_then_records
      apply noting_then_records (.request number call)
      · exact fun params => ih (number + 1) { call with params }
      · exact fun fault => .refused number rest.length call fault
      · exact fun params outcome late inside => .next number _ call params outcome late inside

theorem inbound_records (channel : Channel m) (layers : List (Hooks m)) (number : Nat)
    (method : String) (reply : Reply) :
    Records (inbound channel.journaled (journaledFrom channel number layers) method reply).run
      (inbound channel layers method reply).run (Incoming method number layers.length reply) := by
  induction layers generalizing number reply with
  | nil =>
      rw [journaledFrom, inbound_nil, inbound_nil]
      exact pure_records _ _ (.through number reply)
  | cons layer rest ih =>
      rw [journaledFrom, inbound_cons, inbound_cons]
      apply then_records _ _ _ _ _
        (fun inner outcome journal => journal = [.reply number method inner outcome]) _
        (ih (number + 1) reply)
      · intro inner
        exact pause_then_records _ _ _ _ (step_records _ _)
      · exact fun fault journal inside => .stopped number _ reply fault journal inside
      · rintro inner early outcome late inside rfl
        exact .next number _ reply inner outcome early inside

end Hooks

end RequestLayer
