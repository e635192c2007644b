import Mathlib.Data.List.Induction
import RequestLayer.Proofs.Interleaving.Requests

set_option autoImplicit false

namespace RequestLayer

variable {ν : Type}

structure Flight (ν : Type) where
  request : Issued ν
  found : List (World ν)
  dropped : Bool

-- A scheduler chooses whose transition comes next and which requests are dropped. It may make any list
-- of choices, so what holds after all lists holds at every moment of every run.
inductive Choice (ν : Type) where
  | advance (index : Nat)
  | drop (index : Nat)
  | changeRule (member : Member ν) (change : Freshness.Rule → Freshness.Rule)
  | outside (change : ν → ν)

namespace Flight

variable (flight : Flight ν)

def issue (request : Issued ν) : Flight ν := ⟨request, [], false⟩

def left : Routine (World ν) (Except Fault Json) := flight.request.routine.through flight.found

def isActive : Bool := !flight.dropped && !flight.left.isDone

def advanced (world : World ν) : Flight ν := { flight with found := flight.found ++ [world] }

-- What a choice does to the flight with a number. One that is done or dropped stays as it is.
def moved (world : World ν) (index : Nat) (choice : Choice ν) : Flight ν :=
  if flight.isActive then
    match choice with
    | .advance chosen => if chosen = index then flight.advanced world else flight
    | .drop chosen => if chosen = index then { flight with dropped := true } else flight
    | .changeRule _ _ | .outside _ => flight
  else flight

theorem advanced_left (world : World ν) :
    (flight.advanced world).left = (flight.left.advance world).1 :=
  Routine.through_append _ _ _

theorem moved_cases (world : World ν) (index : Nat) (choice : Choice ν) :
    flight.moved world index choice = flight ∨
      flight.isActive = true ∧
        (choice = .advance index ∧ flight.moved world index choice = flight.advanced world ∨
          choice = .drop index ∧
            flight.moved world index choice = { flight with dropped := true }) := by
  unfold moved
  by_cases active : flight.isActive = true
  · rw [if_pos active]
    cases choice with
    | advance chosen =>
        dsimp only
        by_cases same : chosen = index
        · rw [if_pos same, same]
          exact .inr ⟨active, .inl ⟨rfl, rfl⟩⟩
        · exact .inl (if_neg same)
    | drop chosen =>
        dsimp only
        by_cases same : chosen = index
        · rw [if_pos same, same]
          exact .inr ⟨active, .inr ⟨rfl, rfl⟩⟩
        · exact .inl (if_neg same)
    | changeRule member change => exact .inl rfl
    | outside change => exact .inl rfl
  · exact .inl (if_neg active)

theorem advance_apart (world : World ν) (index chosen : Nat) (apart : chosen ≠ index) :
    flight.moved world index (.advance chosen) = flight := by
  rcases flight.moved_cases world index (.advance chosen) with same | ⟨_, ⟨given, _⟩ | ⟨given, _⟩⟩
  · exact same
  · exact (apart (Choice.advance.inj given)).elim
  · cases given

theorem moved_request (world : World ν) (index : Nat) (choice : Choice ν) :
    (flight.moved world index choice).request = flight.request := by
  rcases flight.moved_cases world index choice with same | ⟨_, ⟨_, same⟩ | ⟨_, same⟩⟩ <;> rw [same]
  rfl

theorem active_kept (active : flight.isActive = true) : flight.dropped = false := by
  rw [isActive, Bool.and_eq_true, Bool.not_eq_true'] at active
  exact active.1

theorem active_running (active : flight.isActive = true) : flight.left.isDone = false := by
  rw [isActive, Bool.and_eq_true, Bool.not_eq_true', Bool.not_eq_true'] at active
  exact active.2

theorem done_inactive (result : Except Fault Json) (ended : flight.left = .done result) :
    flight.isActive = false := by
  rw [isActive, ended]
  exact Bool.and_false _

theorem inactive_moved (world : World ν) (index : Nat) (choice : Choice ν)
    (inactive : flight.isActive = false) : flight.moved world index choice = flight := by
  unfold moved
  rw [inactive]
  rfl

end Flight

structure Flights (ν : Type) where
  world : World ν
  each : List (Flight ν)

namespace Flights

variable (flights : Flights ν)

def issue (world : World ν) (requests : List (Issued ν)) : Flights ν :=
  ⟨world, requests.map Flight.issue⟩

def active? (index : Nat) : Option (Flight ν) :=
  (flights.each[index]?).filter Flight.isActive

def next : Choice ν → World ν
  | .advance index =>
      match flights.active? index with
      | some flight => (flight.left.advance flights.world).2
      | none => flights.world
  | .drop _ => flights.world
  | .changeRule member change => (member.changeRule change flights.world).2
  | .outside change => { flights.world with outside := change flights.world.outside }

def step (choice : Choice ν) : Flights ν :=
  ⟨flights.next choice,
    flights.each.mapIdx fun index flight => flight.moved flights.world index choice⟩

def run (choices : List (Choice ν)) : Flights ν := choices.foldl step flights

def Completed (index : Nat) (outcome : Except Fault Json) : Prop :=
  ∃ flight, flights.each[index]? = some flight ∧ flight.dropped = false ∧
    flight.left = .done outcome

theorem run_append (early late : List (Choice ν)) :
    flights.run (early ++ late) = (flights.run early).run late :=
  List.foldl_append

theorem run_snoc (choices : List (Choice ν)) (choice : Choice ν) :
    flights.run (choices ++ [choice]) = (flights.run choices).step choice :=
  run_append flights choices [choice]

theorem step_each (choice : Choice ν) (index : Nat) :
    (flights.step choice).each[index]? =
      (flights.each[index]?).map fun flight => flight.moved flights.world index choice :=
  List.getElem?_mapIdx

theorem step_flight (choice : Choice ν) (index : Nat) (later : Flight ν)
    (named : (flights.step choice).each[index]? = some later) :
    ∃ flight, flights.each[index]? = some flight ∧
      later = flight.moved flights.world index choice := by
  rw [step_each] at named
  obtain ⟨flight, before, rfl⟩ := Option.map_eq_some_iff.mp named
  exact ⟨flight, before, rfl⟩

theorem step_completed (choice : Choice ν) (index : Nat) (outcome : Except Fault Json)
    (completed : flights.Completed index outcome) :
    (flights.step choice).Completed index outcome := by
  obtain ⟨flight, named, kept, ended⟩ := completed
  refine ⟨flight, ?_, kept, ended⟩
  rw [step_each, named, Option.map_some,
    flight.inactive_moved _ _ _ (flight.done_inactive outcome ended)]

theorem run_completed (choices : List (Choice ν)) (index : Nat) (outcome : Except Fault Json)
    (completed : flights.Completed index outcome) :
    (flights.run choices).Completed index outcome := by
  induction choices using List.reverseRecOn with
  | nil => exact completed
  | append_singleton choices choice ih =>
      rw [run_snoc]
      exact step_completed _ choice index outcome ih

theorem step_nothing (choice : Choice ν)
    (still : ∀ index (flight : Flight ν), flights.each[index]? = some flight →
      flight.moved flights.world index choice = flight)
    (world : flights.next choice = flights.world) : flights.step choice = flights := by
  have each : (flights.step choice).each = flights.each := by
    apply List.ext_getElem?
    intro index
    rw [step_each]
    cases named : flights.each[index]? with
    | none => rfl
    | some flight => exact congrArg some (still index flight named)
  calc flights.step choice = ⟨flights.next choice, (flights.step choice).each⟩ := rfl
    _ = flights := by rw [world, each]

section Advance

variable (index : Nat) (flight : Flight ν) (named : flights.each[index]? = some flight)

include named

theorem active_advanced (active : flight.isActive = true) :
    (flights.step (.advance index)).world = (flight.left.advance flights.world).2 ∧
      (flights.step (.advance index)).each[index]? = some (flight.advanced flights.world) := by
  constructor
  · change flights.next (.advance index) = _
    simp only [next, active?, named, Option.filter_some, active, if_true]
  · rw [step_each, named, Option.map_some, Flight.moved, if_pos active, if_pos rfl]

theorem inactive_advanced (inactive : flight.isActive = false) :
    flights.step (.advance index) = flights := by
  apply step_nothing
  · intro other another there
    by_cases same : index = other
    · subst same
      cases named.symm.trans there
      exact flight.inactive_moved _ _ _ inactive
    · exact another.advance_apart _ _ _ same
  · simp only [next, active?, named, Option.filter_some, inactive, Bool.false_eq_true, if_false]

end Advance

theorem advance_cases (index : Nat) :
    (∃ flight, flights.each[index]? = some flight ∧ flight.isActive = true ∧
      (flights.step (.advance index)).world = (flight.left.advance flights.world).2 ∧
      (flights.step (.advance index)).each[index]? = some (flight.advanced flights.world)) ∨
    flights.step (.advance index) = flights := by
  cases named : flights.each[index]? with
  | none =>
      right
      apply step_nothing
      · intro other flight there
        apply flight.advance_apart
        rintro rfl
        rw [named] at there
        cases there
      · simp [next, active?, named]
  | some flight =>
      cases active : flight.isActive with
      | true => exact .inl ⟨flight, rfl, active, flights.active_advanced index flight named active⟩
      | false => exact .inr (flights.inactive_advanced index flight named active)

theorem completed_still (index : Nat) (outcome : Except Fault Json)
    (completed : flights.Completed index outcome) : flights.step (.advance index) = flights := by
  obtain ⟨flight, named, _, ended⟩ := completed
  exact flights.inactive_advanced index flight named (flight.done_inactive outcome ended)

theorem run_flight (world : World ν) (requests : List (Issued ν)) (choices : List (Choice ν))
    (index : Nat) (flight : Flight ν)
    (named : ((issue world requests).run choices).each[index]? = some flight) :
    requests[index]? = some flight.request ∧
      ∀ found ∈ flight.found, ∃ early late, choices = early ++ .advance index :: late ∧
        ((issue world requests).run early).world = found := by
  induction choices using List.reverseRecOn generalizing flight with
  | nil =>
      change (requests.map Flight.issue)[index]? = _ at named
      rw [List.getElem?_map] at named
      obtain ⟨request, asked, rfl⟩ := Option.map_eq_some_iff.mp named
      exact ⟨asked, fun _ member => absurd member List.not_mem_nil⟩
  | append_singleton choices choice ih =>
      rw [run_snoc] at named
      obtain ⟨before, there, rfl⟩ := step_flight _ choice index flight named
      obtain ⟨asked, worlds⟩ := ih before there
      rw [before.moved_request]
      refine ⟨asked, ?_⟩
      have older (found : World ν) (member : found ∈ before.found) :
          ∃ early late, choices ++ [choice] = early ++ .advance index :: late ∧
            ((issue world requests).run early).world = found := by
        obtain ⟨early, late, rfl, same⟩ := worlds found member
        exact ⟨early, late ++ [choice], List.append_assoc _ _ _, same⟩
      intro found member
      rcases before.moved_cases ((issue world requests).run choices).world index choice with
        same | ⟨_, ⟨rfl, same⟩ | ⟨_, same⟩⟩ <;> rw [same] at member
      · exact older found member
      · rcases List.mem_append.mp member with early | last
        · exact older found early
        · exact ⟨choices, [], rfl, (List.mem_singleton.mp last).symm⟩
      · exact older found member

theorem flight_reaches (world : World ν) (requests : List (Issued ν)) (choices : List (Choice ν))
    (index : Nat) (flight : Flight ν)
    (named : ((issue world requests).run choices).each[index]? = some flight) :
    flight.request.routine.Reaches flight.found flight.left := by
  induction choices using List.reverseRecOn generalizing flight with
  | nil =>
      change (requests.map Flight.issue)[index]? = _ at named
      rw [List.getElem?_map] at named
      obtain ⟨request, _, rfl⟩ := Option.map_eq_some_iff.mp named
      exact .start
  | append_singleton choices choice ih =>
      rw [run_snoc] at named
      obtain ⟨before, there, rfl⟩ := step_flight _ choice index flight named
      have reached := ih before there
      rcases before.moved_cases ((issue world requests).run choices).world index choice with
        same | ⟨active, ⟨_, same⟩ | ⟨_, same⟩⟩ <;> rw [same]
      · exact reached
      · rw [before.advanced_left]
        exact .more _ _ _ reached (before.active_running active)
      · exact reached

theorem rule_elsewhere (world : World ν) (member other : Member ν)
    (change : Freshness.Rule → Freshness.Rule) :
    ((member.changeRule change world).2.caching other).store = (world.caching other).store := by
  change ((world.clients.write member.client.id _).read other.client.id).caching.store = _
  rw [Slots.read_write]
  split
  · rename_i same
    rw [World.caching, same]
  · rfl

theorem run_installed (world : World ν) (requests : List (Issued ν)) (choices : List (Choice ν))
    (member : Member ν) :
    (((issue world requests).run choices).world.caching member).store =
      (world.caching member).store := by
  induction choices using List.reverseRecOn with
  | nil => rfl
  | append_singleton choices choice ih =>
      rw [run_snoc, ← ih]
      cases choice with
      | advance index =>
          rcases ((issue world requests).run choices).advance_cases index with
            ⟨flight, named, _, later, _⟩ | same
          · have keeps := Routine.reaches_within _ _ (request_keeps flight.request) _ _
              (flight_reaches world requests choices index flight named)
            have same := Routine.advance_within World.SameClients (fun _ => rfl) _ keeps
              ((issue world requests).run choices).world
            rw [later, World.caching, same]
            rfl
          · rw [same]
      | drop index => rfl
      | changeRule other change => exact rule_elsewhere _ other member change
      | outside change => rfl

theorem found_steady (world : World ν) (requests : List (Issued ν)) (choices : List (Choice ν))
    (index : Nat) (flight : Flight ν)
    (named : ((issue world requests).run choices).each[index]? = some flight) :
    ∀ one ∈ flight.found, ∀ other ∈ flight.found,
      (other.caching flight.request.member).store = (one.caching flight.request.member).store := by
  have worlds := (run_flight world requests choices index flight named).2
  intro one inside other too
  obtain ⟨early, _, _, rfl⟩ := worlds one inside
  obtain ⟨later, _, _, rfl⟩ := worlds other too
  rw [run_installed, run_installed]

-- With nobody in between, the transitions of a request come to what the whole of it does.
theorem undisturbed (routine : Routine (World ν) (Except Fault Json)) (index : Nat)
    (flight : Flight ν) (named : flights.each[index]? = some flight)
    (kept : flight.dropped = false) (left : flight.left = routine) :
    ∃ count, let after := flights.run (List.replicate count (.advance index))
      after.Completed index (routine.run flights.world).1 ∧
        after.world = (routine.run flights.world).2 := by
  induction routine generalizing flights flight with
  | done outcome => exact ⟨0, ⟨flight, named, kept, left⟩, rfl⟩
  | step change next ih =>
      have active : flight.isActive = true := by rw [Flight.isActive, kept, left]; rfl
      obtain ⟨world, there⟩ := flights.active_advanced index flight named active
      have further := flight.advanced_left flights.world
      rw [left] at world further
      obtain ⟨count, completed, same⟩ := ih flights.world (flights.step (.advance index))
        (flight.advanced flights.world) there kept further
      rw [world] at completed same
      exact ⟨count + 1, completed, same⟩
  | pause point next ih =>
      have active : flight.isActive = true := by rw [Flight.isActive, kept, left]; rfl
      obtain ⟨world, there⟩ := flights.active_advanced index flight named active
      have further := flight.advanced_left flights.world
      rw [left] at world further
      obtain ⟨count, completed, same⟩ := ih (flights.step (.advance index))
        (flight.advanced flights.world) there kept further
      rw [world] at completed same
      exact ⟨count + 1, completed, same⟩

theorem routine_run (request : Issued ν) :
    request.routine.run = request.member.request request.context request.call := by
  rw [request.member.request_blocking, ← request_alone]
  rfl

theorem issue_named (world : World ν) (requests : List (Issued ν)) (index : Nat)
    (request : Issued ν) (asked : requests[index]? = some request) :
    (issue world requests).each[index]? = some (Flight.issue request) := by
  rw [issue, List.getElem?_map, asked]
  rfl

theorem request_undisturbed (world : World ν) (requests : List (Issued ν)) (index : Nat)
    (request : Issued ν) (asked : requests[index]? = some request) :
    ∃ count, let after := (issue world requests).run (List.replicate count (.advance index))
      after.Completed index (request.member.request request.context request.call world).1 ∧
        after.world = (request.member.request request.context request.call world).2 := by
  rw [← routine_run]
  exact (issue world requests).undisturbed request.routine index _
    (issue_named world requests index request asked) rfl rfl

end Flights

end RequestLayer
