import RequestLayer.Proofs.Interleaving.Flights

set_option autoImplicit false

namespace RequestLayer.Flights

variable {ν : Type}

structure Writes (flights : Flights ν) (index store : Nat) (request : Issued ν) (value : Json) :
    Prop where
  active : ∃ flight, flights.each[index]? = some flight ∧ flight.request = request ∧
    flight.isActive = true
  stored : (flights.step (.advance index)).world =
    flights.world.stored store request.fingerprint value
  completed : (flights.step (.advance index)).Completed index (.ok value)

-- All clients keep their responses in one store, and what is left of the requests may still be done.
structure Underway (store : Nat) (flights : Flights ν) : Prop where
  installed : ∀ flight ∈ flights.each,
    (flights.world.caching flight.request.member).store = some store
  concludes : ∀ flight ∈ flights.each, flight.request.Concludes store flight.left

theorem issue_underway (world : World ν) (requests : List (Issued ν)) (store : Nat)
    (installed : ∀ request ∈ requests, (world.caching request.member).store = some store) :
    Underway store (issue world requests) := by
  constructor
  · intro flight member
    obtain ⟨request, asked, rfl⟩ := List.mem_map.mp member
    exact installed request asked
  · intro flight member
    obtain ⟨request, _, rfl⟩ := List.mem_map.mp member
    exact request_concludes request store

section Steps

variable (store : Nat) (flights : Flights ν) (underway : Underway store flights)

include underway

theorem advanced_flight (flight : Flight ν) (member : flight ∈ flights.each) :
    flights.world.Untouched (flight.left.advance flights.world).2 ∧
        flight.request.Concludes store (flight.advanced flights.world).left ∨
      ∃ value, (flight.advanced flights.world).left = .done (.ok value) ∧
        (flight.left.advance flights.world).2 =
          flights.world.stored store flight.request.fingerprint value := by
  rw [flight.advanced_left]
  rcases Routine.advance_concludes _ _ _ World.Untouched.refl flight.left
    (underway.concludes flight member) flights.world (underway.installed flight member) with
    quiet | ⟨_, ended, value, rfl, stored⟩
  · exact .inl quiet
  · exact .inr ⟨value, ended, stored⟩

theorem advance_effect (index : Nat) :
    flights.world.Untouched (flights.step (.advance index)).world ∨
      ∃ request value, flights.Writes index store request value := by
  rcases flights.advance_cases index with ⟨flight, named, active, world, later⟩ | same
  · rcases advanced_flight store flights underway flight (List.mem_of_getElem? named) with
      ⟨quiet, _⟩ | ⟨value, ended, stored⟩
    · rw [world]
      exact .inl quiet
    · exact .inr ⟨flight.request, value, ⟨flight, named, rfl, active⟩, world.trans stored, _, later,
        flight.active_kept active, ended⟩
  · rw [same]
    exact .inl (.refl _)

theorem step_installed (choice : Choice ν) (member : Member ν) :
    ((flights.step choice).world.caching member).store =
      (flights.world.caching member).store := by
  cases choice with
  | advance index =>
      rcases advance_effect store flights underway index with quiet | ⟨request, value, writes⟩
      · exact congrArg Caching.store (untouched_caching member _ _ quiet)
      · rw [writes.stored]
        rfl
  | drop index => rfl
  | changeRule other change => exact rule_elsewhere flights.world other member change
  | outside change => rfl

theorem step_underway (choice : Choice ν) : Underway store (flights.step choice) := by
  have former (later : Flight ν) (member : later ∈ (flights.step choice).each) :
      ∃ flight ∈ flights.each, ∃ index, later = flight.moved flights.world index choice := by
    obtain ⟨index, named⟩ := List.getElem?_of_mem member
    obtain ⟨flight, before, same⟩ := flights.step_flight choice index later named
    exact ⟨flight, List.mem_of_getElem? before, index, same⟩
  constructor
  · intro later member
    obtain ⟨flight, before, index, rfl⟩ := former later member
    rw [step_installed store flights underway choice, flight.moved_request]
    exact underway.installed flight before
  · intro later member
    obtain ⟨flight, before, index, rfl⟩ := former later member
    rw [flight.moved_request]
    rcases flight.moved_cases flights.world index choice with
      same | ⟨_, ⟨_, same⟩ | ⟨_, same⟩⟩ <;> rw [same]
    · exact underway.concludes flight before
    · rcases advanced_flight store flights underway flight before with
        ⟨_, further⟩ | ⟨value, ended, _⟩
      · exact further
      · rw [ended]
        trivial
    · exact underway.concludes flight before

end Steps

theorem run_underway (store : Nat) (flights : Flights ν) (underway : Underway store flights)
    (choices : List (Choice ν)) : Underway store (flights.run choices) := by
  induction choices using List.reverseRecOn with
  | nil => exact underway
  | append_singleton choices choice ih =>
      rw [run_snoc]
      exact step_underway store _ ih choice

theorem step_stores_once (store : Nat) (flights : Flights ν) (underway : Underway store flights)
    (choice : Choice ν) :
    (flights.step choice).world.stores = flights.world.stores ∨
      ∃ index request value, choice = .advance index ∧
        flights.Writes index store request value := by
  cases choice with
  | advance index =>
      rcases advance_effect store flights underway index with quiet | ⟨request, value, writes⟩
      · exact .inl quiet.stores
      · exact .inr ⟨index, request, value, rfl, writes⟩
  | _ => exact .inl rfl

section Runs

variable (world : World ν) (requests : List (Issued ν)) (store : Nat) (capacity : Option Capacity)

def Written (choices : List (Choice ν)) (fingerprint : Fingerprint) (value : Json) : Prop :=
  ∃ early index late request, choices = early ++ .advance index :: late ∧
    requests[index]? = some request ∧ request.fingerprint = fingerprint ∧
    ((issue world requests).run early).Writes index store request value ∧
    ((issue world requests).run choices).Completed index (.ok value)

theorem written_later (early late : List (Choice ν)) (fingerprint : Fingerprint) (value : Json)
    (written : Written world requests store early fingerprint value) :
    Written world requests store (early ++ late) fingerprint value := by
  obtain ⟨before, index, between, request, rfl, asked, same, writes, completed⟩ := written
  refine ⟨before, index, between ++ late, request, List.append_assoc _ _ _, asked, same, writes, ?_⟩
  rw [run_append]
  exact run_completed _ late index _ completed

theorem writes_written (choices : List (Choice ν)) (index : Nat) (request : Issued ν) (value : Json)
    (writes : ((issue world requests).run choices).Writes index store request value) :
    Written world requests store (choices ++ [.advance index]) request.fingerprint value := by
  obtain ⟨flight, named, rfl, _⟩ := writes.active
  refine ⟨choices, index, [], flight.request, rfl, ?_, rfl, writes, ?_⟩
  · exact (run_flight world requests choices index flight named).1
  · rw [run_snoc]
    exact writes.completed

section Entries

variable (installed : ∀ request ∈ requests, (world.caching request.member).store = some store)
  (empty : world.stores.read store = .empty capacity)

include installed

theorem writes_or_not (choices : List (Choice ν)) (choice : Choice ν) :
    ((issue world requests).run (choices ++ [choice])).world.stores =
        ((issue world requests).run choices).world.stores ∨
      ∃ index request value, choice = .advance index ∧
        ((issue world requests).run choices).Writes index store request value := by
  rw [run_snoc]
  exact step_stores_once store _
    (run_underway store _ (issue_underway world requests store installed) choices) choice

theorem transition_once (early : List (Choice ν)) (index : Nat) :
    ((issue world requests).run (early ++ [.advance index])).world.stores =
        ((issue world requests).run early).world.stores ∨
      ∃ request value, requests[index]? = some request ∧
        ((issue world requests).run early).Writes index store request value ∧
        ∀ rest, ((issue world requests).run (early ++ .advance index :: rest)).Completed index
          (.ok value) := by
  rcases writes_or_not world requests store installed early (.advance index) with
    same | ⟨index, request, value, ⟨rfl⟩, writes⟩
  · exact .inl same
  · right
    obtain ⟨flight, named, rfl, _⟩ := writes.active
    refine ⟨flight.request, value, (run_flight world requests early index flight named).1, writes, ?_⟩
    intro rest
    rw [← List.singleton_append, ← List.append_assoc, run_append, run_snoc]
    exact run_completed _ rest index _ writes.completed

include empty

theorem entries_written (choices : List (Choice ν)) (fingerprint : Fingerprint) (value : Json)
    (present : (((issue world requests).run choices).world.stores.read store).get? fingerprint =
      some value) : Written world requests store choices fingerprint value := by
  induction choices using List.reverseRecOn with
  | nil =>
      change (world.stores.read store).get? fingerprint = some value at present
      rw [empty] at present
      cases present
  | append_singleton choices choice ih =>
      rcases writes_or_not world requests store installed choices choice with
        same | ⟨index, request, other, rfl, writes⟩
      · rw [same] at present
        exact written_later world requests store choices [choice] fingerprint value (ih present)
      · rw [run_snoc, writes.stored, stored_read, if_pos rfl] at present
        rcases Store.get_insert _ _ _ _ _ present with ⟨rfl, rfl⟩ | ⟨_, held⟩
        · exact writes_written world requests store choices index request value writes
        · exact written_later world requests store choices _ fingerprint value (ih held)

theorem run_queued (choices : List (Choice ν)) :
    Queued capacity (((issue world requests).run choices).world.stores.read store) := by
  induction choices using List.reverseRecOn with
  | nil =>
      change Queued capacity (world.stores.read store)
      rw [empty]
      exact ⟨Store.empty_matched capacity, Store.empty_fits capacity, rfl⟩
  | append_singleton choices choice ih =>
      rcases writes_or_not world requests store installed choices choice with
        same | ⟨index, request, other, rfl, writes⟩
      · rw [same]
        exact ih
      · rw [run_snoc, writes.stored, stored_read, if_pos rfl]
        exact insert_queued capacity _ _ other ih

theorem answer_resolved (choices : List (Choice ν)) (index : Nat) (flight : Flight ν) (value : Json)
    (named : ((issue world requests).run choices).each[index]? = some flight)
    (ended : flight.left = .done (.ok value)) :
    flight.request.Resolves value flight.found ∨
      ∃ early late, choices = early ++ .advance index :: late ∧
        Written world requests store early flight.request.fingerprint value := by
  obtain ⟨asked, worlds⟩ := run_flight world requests choices index flight named
  generalize same : flight.found = found at worlds
  have answered := request_answered flight.request found value (same ▸ ended)
  cases answered with
  | apart first rest _ resolved =>
      exact .inl ⟨[first], rest, [], by simp, Nat.le_succ 1, resolved⟩
  | missed first second early late _ _ _ resolved =>
      exact .inl ⟨[first, second], early, late, rfl, Nat.le_refl 2, resolved⟩
  | held first second rest own uses present =>
      right
      obtain ⟨start, _, _, rfl⟩ := worlds first List.mem_cons_self
      obtain ⟨early, late, split, rfl⟩ := worlds second
        (List.mem_cons_of_mem _ List.mem_cons_self)
      have kept := installed flight.request (List.mem_of_getElem? asked)
      rw [← run_installed world requests start, uses.installed] at kept
      obtain rfl : own = store := Option.some.inj kept
      exact ⟨early, late, split, entries_written world requests own capacity installed empty early _
        value present⟩

end Entries

-- Where all that is stored and returned in a run comes from. A request that is alone comes to what the
-- client comes to, so the transitions are those of the program.
structure Accounted (choices : List (Choice ν)) : Prop where
  dropped : ∀ early index late flight, choices = early ++ .advance index :: late →
    ((issue world requests).run choices).each[index]? = some flight → flight.dropped = true →
      ((issue world requests).run (early ++ [.advance index])).world.stores =
        ((issue world requests).run early).world.stores
  once : ∀ early index late, choices = early ++ .advance index :: late →
    ((issue world requests).run (early ++ [.advance index])).world.stores =
        ((issue world requests).run early).world.stores ∨
      ∃ request value, requests[index]? = some request ∧
        ((issue world requests).run early).Writes index store request value ∧
        ((issue world requests).run choices).Completed index (.ok value) ∧
        ∀ between rest, late = between ++ .advance index :: rest →
          (issue world requests).run (early ++ .advance index :: between ++ [.advance index]) =
            (issue world requests).run (early ++ .advance index :: between)
  entries : ∀ fingerprint value,
    (((issue world requests).run choices).world.stores.read store).get? fingerprint = some value →
      Written world requests store choices fingerprint value
  answers : ∀ index flight value,
    ((issue world requests).run choices).each[index]? = some flight →
      flight.left = .done (.ok value) →
        flight.request.Resolves value flight.found ∨
          ∃ early late, choices = early ++ .advance index :: late ∧
            Written world requests store early flight.request.fingerprint value
  bounded : ∀ limit ∈ capacity,
    (((issue world requests).run choices).world.stores.read store).size ≤ limit.size
  undisturbed : ∀ (index : Nat) request, requests[index]? = some request →
    ∃ count, let after := (issue world requests).run (List.replicate count (.advance index))
      after.Completed index (request.member.request request.context request.call world).1 ∧
        after.world = (request.member.request request.context request.call world).2

theorem requests_accounted
    (installed : ∀ request ∈ requests, (world.caching request.member).store = some store)
    (empty : world.stores.read store = .empty capacity) (choices : List (Choice ν)) :
    Accounted world requests store capacity choices where
  dropped := by
    rintro early index late flight rfl named dropped
    rcases transition_once world requests store installed early index with
      same | ⟨request, value, _, _, completed⟩
    · exact same
    · obtain ⟨other, there, kept, _⟩ := completed late
      cases named.symm.trans there
      rw [dropped] at kept
      cases kept
  once := by
    rintro early index late rfl
    rcases transition_once world requests store installed early index with
      same | ⟨request, value, asked, writes, completed⟩
    · exact .inl same
    · refine .inr ⟨request, value, asked, writes, completed late, ?_⟩
      intro between rest _
      rw [run_snoc]
      exact completed_still _ index _ (completed between)
  entries := entries_written world requests store capacity installed empty choices
  answers := fun index flight value =>
    answer_resolved world requests store capacity installed empty choices index flight value
  bounded := by
    rintro limit ⟨rfl⟩
    have queued := run_queued world requests store (some limit) installed empty choices
    rw [Store.size_eq_order _ queued.matched]
    exact queued.fits limit queued.capacity
  undisturbed := request_undisturbed world requests

end Runs

-- Two requests for the same thing that both miss, on a store with one place. The second is dropped
-- when the first goes on to its end.
def racer (id : String) : Issued Nat := ⟨counted .suspendable, .caller id, ⟨"eth_chainId", []⟩⟩

def race : List (Choice Nat) :=
  List.replicate 4 (.advance 0) ++ List.replicate 6 (.advance 1) ++ [.drop 1] ++
    List.replicate 7 (.advance 0)

theorem requests_accounted_race :
    let start := issue (countedWorld (.enabled 0 none)) [racer "a", racer "a"]
    (start.run race).each.map (fun flight => (flight.dropped, flight.left.isDone)) =
        [(false, true), (true, false)] ∧
      ((start.run race).world.stores.read 0).size = 1 ∧
      Accounted (countedWorld (.enabled 0 none)) [racer "a", racer "a"] 0
        (some ⟨1, Nat.one_pos⟩) race := by
  intro start
  have ends : (start.run race).each.map (fun flight => (flight.dropped, flight.left.isDone)) =
        [(false, true), (true, false)] ∧ ((start.run race).world.stores.read 0).size = 1 := by
    decide +kernel
  refine ⟨ends.1, ends.2, ?_⟩
  apply requests_accounted
  · intro request asked
    obtain rfl : request = racer "a" := by simpa using asked
    rfl
  · rfl

end RequestLayer.Flights
