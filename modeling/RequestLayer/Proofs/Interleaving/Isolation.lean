import RequestLayer.Proofs.Interleaving.Recording
import RequestLayer.Proofs.Interleaving.Writes

set_option autoImplicit false

namespace RequestLayer

variable {ν : Type}

def Issued.served? (request : Issued ν) : List (World ν) → Option Json
  | first :: second :: _ =>
      match (first.caching request.member).store with
      | some store =>
          if (first.caching request.member).rule.isCacheable request.call.method then
            (second.stores.read store).get? request.fingerprint
          else none
      | none => none
  | _ => none

-- Whether a choice is about a request of the context, or about no request.
def Choice.concerns (requests : List (Issued ν)) (context : Context) : Choice ν → Bool
  | .advance index | .drop index =>
      (requests[index]?).any fun request => request.context = context
  | .changeRule _ _ | .outside _ => true

section Flights

variable (store : Nat) (mine : Issued ν → Prop)

structure Flight.Alike (flight twin : Flight ν) : Prop where
  request : twin.request = flight.request
  dropped : twin.dropped = flight.dropped
  found : List.Forall₂ (Level store mine) flight.found twin.found

theorem served_alike (request : Issued ν) (own : mine request) (found others : List (World ν))
    (same : List.Forall₂ (Level store mine) found others) :
    request.served? found = request.served? others := by
  cases same with
  | nil => rfl
  | cons first rest =>
      cases rest with
      | nil => rfl
      | cons second _ =>
          simp only [Issued.served?]
          rw [← level_caching store mine _ _ first, first.installed request own]
          dsimp only
          rw [second.held request own]

section Alike

variable (flight twin : Flight ν) (own : mine flight.request) (pure : flight.request.member.Pure)
  (alike : flight.Alike store mine twin)

include own pure alike

theorem left_alike :
    flight.left = twin.left ∧
      flight.left.Blind (Level store mine) (World.shown fun _ => ([] : List Sight)) := by
  unfold Flight.left
  rw [alike.request]
  obtain ⟨left, _, blind⟩ := Routine.through_blind _ _ (shown_idle _) _
    (request_unseeing _ store mine flight.request (pure_telling _ pure) own) _ _ alike.found
  exact ⟨left, blind⟩

theorem active_alike : flight.isActive = twin.isActive := by
  rw [Flight.isActive, Flight.isActive, alike.dropped,
    (left_alike store mine flight twin own pure alike).1]

theorem moved_alike (one other : World ν) (level : Level store mine one other) (index : Nat)
    (choice : Choice ν) :
    (flight.moved one index choice).Alike store mine (twin.moved other index choice) := by
  unfold Flight.moved
  rw [active_alike store mine flight twin own pure alike]
  by_cases active : twin.isActive = true
  · rw [if_pos active, if_pos active]
    cases choice with
    | advance chosen =>
        dsimp only
        split
        · exact ⟨alike.request, alike.dropped, List.rel_append alike.found (.cons level .nil)⟩
        · exact alike
    | drop chosen =>
        dsimp only
        split
        · exact ⟨alike.request, rfl, alike.found⟩
        · exact alike
    | changeRule member change => exact alike
    | outside change => exact alike
  · rw [if_neg active, if_neg active]
    exact alike

end Alike

end Flights

section Runs

variable (store : Nat) (requests : List (Issued ν)) (context : Context)

def Mine (request : Issued ν) : Prop := request ∈ requests ∧ request.context = context

-- Two runs that the requests of the context cannot tell apart.
structure Lockstep (one other : Flights ν) : Prop where
  level : Level store (Mine requests context) one.world other.world
  each : ∀ (index : Nat) request, requests[index]? = some request → request.context = context →
    ∃ flight twin, one.each[index]? = some flight ∧ other.each[index]? = some twin ∧
      flight.request = request ∧ flight.Alike store (Mine requests context) twin

section Steps

variable (pure : ∀ request ∈ requests, request.member.Pure) (one other : Flights ν)
  (lockstep : Lockstep store requests context one other)

include pure lockstep

theorem advance_level (index : Nat) (request : Issued ν) (named : requests[index]? = some request)
    (own : request.context = context) :
    Level store (Mine requests context) (one.step (.advance index)).world
      (other.step (.advance index)).world := by
  obtain ⟨flight, twin, here, there, rfl, alike⟩ := lockstep.each index request named own
  have mine : Mine requests context flight.request := ⟨List.mem_of_getElem? named, own⟩
  have steady := pure flight.request mine.1
  have same := active_alike store _ flight twin mine steady alike
  obtain ⟨left, blind⟩ := left_alike store _ flight twin mine steady alike
  cases active : twin.isActive with
  | true =>
      rw [(one.active_advanced index flight here (same.trans active)).1,
        (other.active_advanced index twin there active).1, ← left]
      exact (Routine.advance_blind _ _ (shown_idle _) _ blind _ _ lockstep.level).1
  | false =>
      rw [one.inactive_advanced index flight here (same.trans active),
        other.inactive_advanced index twin there active]
      exact lockstep.level

theorem concerned_level (choice : Choice ν) (concerned : choice.concerns requests context) :
    Level store (Mine requests context) (one.step choice).world (other.step choice).world := by
  have level := lockstep.level
  cases choice with
  | advance index =>
      obtain ⟨request, named, own⟩ := (Option.any_eq_true _ _).mp concerned
      exact advance_level store requests context pure one other lockstep index request named
        (of_decide_eq_true own)
  | drop index => exact level
  | changeRule member change =>
      refine ⟨?_, ?_, level.unbounded, level.held⟩
      · change one.world.clients.write _ _ = other.world.clients.write _ _
        rw [level.clients]
      · intro request mine
        exact (Flights.rule_elsewhere one.world member _ change).trans
          (level.installed request mine)
  | outside change => exact ⟨level.clients, level.installed, level.unbounded, level.held⟩

theorem concerned_lockstep (choice : Choice ν) (concerned : choice.concerns requests context) :
    Lockstep store requests context (one.step choice) (other.step choice) := by
  refine ⟨concerned_level store requests context pure one other lockstep choice concerned, ?_⟩
  intro index request named own
  obtain ⟨flight, twin, here, there, rfl, alike⟩ := lockstep.each index request named own
  have mine : Mine requests context flight.request := ⟨List.mem_of_getElem? named, own⟩
  refine ⟨flight.moved one.world index choice, twin.moved other.world index choice, ?_, ?_, ?_, ?_⟩
  · rw [one.step_each, here, Option.map_some]
  · rw [other.step_each, there, Option.map_some]
  · exact flight.moved_request _ _ _
  · exact moved_alike store _ flight twin mine (pure _ mine.1) alike one.world other.world
      lockstep.level index choice

end Steps

theorem still_apart (index : Nat) (request : Issued ν) (named : requests[index]? = some request)
    (choice : Choice ν)
    (apart : choice.concerns requests context ≠ decide (request.context = context))
    (flight : Flight ν) (world : World ν) : flight.moved world index choice = flight := by
  have about : (requests[index]?).any (fun request => request.context = context) =
      decide (request.context = context) := by rw [named, Option.any_some]
  rcases flight.moved_cases world index choice with same | ⟨_, ⟨rfl, _⟩ | ⟨rfl, _⟩⟩
  · exact same
  · exact (apart about).elim
  · exact (apart about).elim

section Foreign

variable (one other : Flights ν) (lockstep : Lockstep store requests context one other)
  (underway : Flights.Underway store one)
  (issued : ∀ (index : Nat) (flight : Flight ν), one.each[index]? = some flight →
    requests[index]? = some flight.request)
  (apart : ∀ request ∈ requests, ∀ foreign ∈ requests,
    request.fingerprint = foreign.fingerprint → request.context = foreign.context)

include lockstep underway issued apart

theorem foreign_level (index : Nat)
    (foreign : ¬ (Choice.advance index : Choice ν).concerns requests context) :
    Level store (Mine requests context) (one.step (.advance index)).world other.world := by
  have level := lockstep.level
  rcases Flights.advance_effect store one underway index with quiet | ⟨asked, value, writes⟩
  · refine ⟨quiet.clients.trans level.clients, ?_, ?_, ?_⟩
    · intro request mine
      rw [untouched_caching _ _ _ quiet]
      exact level.installed request mine
    · rw [quiet.stores]
      exact level.unbounded
    · rw [quiet.stores]
      exact level.held
  · obtain ⟨flight, named, rfl, _⟩ := writes.active
    have there := issued index flight named
    rw [writes.stored]
    refine ⟨level.clients, level.installed, ?_, ?_⟩
    · rw [stored_read, if_pos rfl, Store.insert_capacity]
      exact level.unbounded
    · intro own mine
      have different : own.fingerprint ≠ flight.request.fingerprint := by
        intro equal
        have shared := apart own mine.1 flight.request (List.mem_of_getElem? there) equal
        apply foreign
        simp only [Choice.concerns, there, Option.any_some, decide_eq_true_eq]
        exact shared.symm.trans mine.2
      rw [stored_read, if_pos rfl, Store.get_insert_unbounded _ _ _ _ level.unbounded.1,
        if_neg different]
      exact level.held own mine

theorem foreign_lockstep (choice : Choice ν) (foreign : ¬ choice.concerns requests context) :
    Lockstep store requests context (one.step choice) other := by
  constructor
  · cases choice with
    | advance index =>
        exact foreign_level store requests context one other lockstep underway issued apart index
          foreign
    | drop index => exact lockstep.level
    | changeRule member change => exact absurd rfl foreign
    | outside change => exact absurd rfl foreign
  · intro index request named own
    obtain ⟨flight, twin, here, there, asked, alike⟩ := lockstep.each index request named own
    have still := still_apart requests context index request named choice
      (by simpa [own] using foreign) flight one.world
    refine ⟨flight, twin, ?_, there, asked, alike⟩
    rw [one.step_each, here, Option.map_some, still]

end Foreign

section Start

variable (world : World ν)
  (installed : ∀ request ∈ requests, (world.caching request.member).store = some store)
  (unbounded : (world.stores.read store).capacity = none)

-- A request that is not of the context has not begun in the run of those that are.
theorem foreign_unissued (choices : List (Choice ν)) (index : Nat) (request : Issued ν)
    (named : requests[index]? = some request) (foreign : request.context ≠ context) :
    ((Flights.issue world requests).run
      (choices.filter fun choice => choice.concerns requests context)).each[index]? =
        some (Flight.issue request) := by
  induction choices using List.reverseRecOn with
  | nil => exact Flights.issue_named world requests index request named
  | append_singleton choices choice ih =>
      rw [List.filter_append, List.filter_singleton]
      cases concerned : choice.concerns requests context with
      | false =>
          rw [Bool.cond_false, List.append_nil]
          exact ih
      | true =>
          rw [Bool.cond_true, Flights.run_snoc, Flights.step_each, ih, Option.map_some]
          exact congrArg some (still_apart requests context index request named choice
            (by simp [concerned, foreign]) _ _)

include installed unbounded

theorem issue_lockstep :
    Lockstep store requests context (Flights.issue world requests)
      (Flights.issue world requests) := by
  constructor
  · exact ⟨rfl, fun request mine => installed request mine.1, ⟨unbounded, unbounded⟩, fun _ _ => rfl⟩
  · intro index request named own
    have here := Flights.issue_named world requests index request named
    exact ⟨_, _, here, here, rfl, rfl, rfl, .nil⟩

theorem run_lockstep (pure : ∀ request ∈ requests, request.member.Pure)
    (apart : ∀ request ∈ requests, ∀ foreign ∈ requests,
      request.fingerprint = foreign.fingerprint → request.context = foreign.context)
    (choices : List (Choice ν)) :
    Lockstep store requests context ((Flights.issue world requests).run choices)
      ((Flights.issue world requests).run
        (choices.filter fun choice => choice.concerns requests context)) := by
  have underway := Flights.run_underway store _
    (Flights.issue_underway world requests store installed)
  induction choices using List.reverseRecOn with
  | nil => exact issue_lockstep store requests context world installed unbounded
  | append_singleton choices choice ih =>
      rw [List.filter_append, List.filter_singleton, Flights.run_snoc]
      cases concerned : choice.concerns requests context with
      | false =>
          rw [Bool.cond_false, List.append_nil]
          apply foreign_lockstep store requests context _ _ ih (underway choices) _ apart choice
          · rw [concerned]
            exact Bool.false_ne_true
          · intro index flight named
            exact (Flights.run_flight world requests choices index flight named).1
      | true =>
          rw [Bool.cond_true, Flights.run_snoc]
          exact concerned_lockstep store requests context pure _ _ ih choice concerned

end Start

end Runs

-- The calls of a request are those that its recorded twin has noted, which makes the same transitions.
theorem contexts_isolated (world : World ν) (requests : List (Issued ν)) (store : Nat)
    (context : Context)
    (installed : ∀ request ∈ requests, (world.caching request.member).store = some store)
    (unbounded : (world.stores.read store).capacity = none)
    (pure : ∀ request ∈ requests, request.member.Pure)
    (apart : ∀ request ∈ requests, ∀ foreign ∈ requests,
      request.fingerprint = foreign.fingerprint → request.context = foreign.context)
    (choices : List (Choice ν)) :
    let start := Flights.issue world requests
    let all := start.run choices
    let own := start.run (choices.filter fun choice => choice.concerns requests context)
    ∀ (index : Nat) (request : Issued ν), requests[index]? = some request →
      (request.context = context →
        (∀ outcome, all.Completed index outcome ↔ own.Completed index outcome) ∧
        ∃ flight twin, all.each[index]? = some flight ∧ own.each[index]? = some twin ∧
          flight.left = twin.left ∧ flight.dropped = twin.dropped ∧
          request.served? flight.found = request.served? twin.found ∧
          request.calls flight.found = request.calls twin.found) ∧
      (request.context ≠ context → own.each[index]? = some (Flight.issue request)) ∧
      ∀ found, (request.recorded.routine.through (found.map World.silent)).Follows World.plain
        (request.routine.through found) := by
  intro start all own index request named
  refine ⟨?_, ?_, recorded_in_step request⟩
  · intro mine
    have lockstep := run_lockstep store requests context world installed unbounded pure apart choices
    obtain ⟨flight, twin, here, there, rfl, alike⟩ := lockstep.each index request named mine
    have member : Mine requests context flight.request := ⟨List.mem_of_getElem? named, mine⟩
    have steady := pure flight.request member.1
    have left := (left_alike store _ flight twin member steady alike).1
    refine ⟨?_, flight, twin, here, there, left, alike.dropped.symm,
      served_alike store _ flight.request member _ _ alike.found,
      calls_alike store _ flight.request member steady _ _ alike.found⟩
    intro outcome
    simp only [Flights.Completed, all, own, start, here, there, Option.some.injEq,
      exists_eq_left', left, alike.dropped]
  · intro foreign
    exact foreign_unissued requests context world choices index request named foreign

-- The second caller's request goes first, and leaves a response for the second caller alone.
theorem contexts_isolated_two_callers :
    let world : World Nat := { countedWorld (.enabled 0 none) with
      stores := Slots.empty.write 0 (.empty none) }
    let start := Flights.issue world [Flights.racer "a", Flights.racer "b"]
    let second := List.replicate 11 (Choice.advance 1)
    let first := List.replicate 11 (Choice.advance 0)
    ∀ outcome, (start.run (second ++ first)).Completed 0 outcome ↔
      (start.run first).Completed 0 outcome := by
  intro world start second first
  have differ : (Flights.racer "a").fingerprint ≠ (Flights.racer "b").fingerprint :=
    two_callers_differ
  have only : (second ++ first).filter
      (fun choice => choice.concerns [Flights.racer "a", Flights.racer "b"] (.caller "a")) =
        first := by
    simp [second, first, Choice.concerns, Flights.racer]
  have isolated := contexts_isolated world [Flights.racer "a", Flights.racer "b"] 0 (.caller "a")
    (by
      intro request member
      rcases List.mem_pair.mp member with rfl | rfl <;> rfl)
    rfl
    (by
      intro request member
      rcases List.mem_pair.mp member with rfl | rfl <;> exact counted_pure .suspendable)
    (by
      intro request member foreign other same
      rcases List.mem_pair.mp member with rfl | rfl
      all_goals rcases List.mem_pair.mp other with rfl | rfl
      · rfl
      · exact (differ same).elim
      · exact (differ same.symm).elim
      · rfl)
    (second ++ first) 0 (Flights.racer "a") rfl
  rw [only] at isolated
  exact (isolated.1 rfl).1

end RequestLayer
