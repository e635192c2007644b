import RequestLayer.Proofs.Interleaving.Flights
import RequestLayer.Proofs.Session.Storing

set_option autoImplicit false

namespace RequestLayer

namespace Routine

variable {σ α β : Type}

theorem done_reaches (value : α) (states : List σ) (left : Routine σ α)
    (reached : (Routine.done value : Routine σ α).Reaches states left) :
    states = [] ∧ left = .done value := by
  induction reached with
  | start => exact ⟨rfl, rfl⟩
  | more states left state before running ih =>
      rw [ih.2] at running
      cases running

theorem step_reaches (change : σ → σ) (next : σ → Routine σ α) (states : List σ)
    (left : Routine σ α) (reached : (Routine.step change next).Reaches states left) :
    states = [] ∧ left = .step change next ∨
      ∃ state rest, states = state :: rest ∧ (next state).Reaches rest left := by
  induction reached with
  | start => exact .inl ⟨rfl, rfl⟩
  | more states left state before running ih =>
      rcases ih with ⟨rfl, rfl⟩ | ⟨first, rest, rfl, further⟩
      · exact .inr ⟨state, [], rfl, .start⟩
      · exact .inr ⟨first, rest ++ [state], rfl, .more rest left state further running⟩

theorem bind_passed (first : Routine σ α) (next : α → Routine σ β) (states : List σ)
    (part : Routine σ α) (reached : first.Reaches states part) :
    (first >>= next).through states = part >>= next := by
  induction reached with
  | start => rfl
  | more states left state before running ih =>
      rw [through_append, ih]
      exact congrArg Prod.fst (bind_advance left next state running)

end Routine

variable {ν : Type}

namespace Issued

variable (request : Issued ν)

def passage : Routine (World ν) (Except Fault Reply) :=
  (Hooks.execute (request.member.client.channel request.member.node)
    (request.member.client.stack.items.map Layer.hooks) request.call).run

def judging (rule : Freshness.Rule) (result : Json) : Routine (World ν) Bool :=
  rule.allows (request.member.client.channel request.member.node) request.call (some result)

-- Everything that has to come together for a request to store a result, after its transitions have found
-- these worlds.
inductive Keeps : List (World ν) → Nat → Json → Prop where
  | request (first second later : World ν) (passed judged : List (World ν)) (store : Nat)
      (reply : Reply) (result : Json)
      (installed : (first.caching request.member).store = some store)
      (listed : (first.caching request.member).rule.isCacheable request.call.method)
      (missed : (second.stores.read store).get? request.fingerprint = none)
      (passes : request.passage.Reaches passed (.done (.ok reply)))
      (sound : reply.error = none)
      (given : reply.result = some result)
      (present : result ≠ .null)
      (stillInstalled : (later.caching request.member).store = some store)
      (stillListed : (later.caching request.member).rule.isCacheable request.call.method)
      (allowed : (request.judging (later.caching request.member).rule result).Reaches judged
        (.done true)) :
      Keeps (first :: second :: passed ++ later :: judged) store result

theorem chain_parts :
    request.chain = request.passage >>= fun outcome => .done (outcome.bind Reply.outcome) := by
  rw [chain, Client.resolve_eq, ExceptT.run_bind]
  unfold passage
  congr 1
  funext outcome
  cases outcome <;> rfl

theorem storing_parts (caching : Caching) (result : Json) :
    request.storing caching result = request.judging caching.rule result >>= fun allowed =>
      match allowed, caching.store with
      | true, some store =>
          .step (fun world => world.stored store request.fingerprint result) fun _ =>
            .done (.ok result)
      | _, _ => .done (.ok result) := by
  rw [storing, Caching.keep_eq, bind_assoc]
  unfold judging
  congr 1
  funext allowed
  cases allowed with
  | false => rfl
  | true => cases caching.store <;> rfl

theorem chain_passed (early : List (World ν)) (result : Json)
    (reached : request.chain.Reaches early (.done (.ok result))) :
    ∃ reply, request.passage.Reaches early (.done (.ok reply)) ∧ reply.outcome = .ok result := by
  rw [chain_parts] at reached
  rcases Routine.bind_reaches _ _ _ _ reached with
    ⟨part, _, running, same⟩ | ⟨passed, rest, outcome, rfl, there, further⟩
  · cases part with
    | done outcome => cases running
    | step change next => cases same
    | pause point next => cases same
  · obtain ⟨rfl, same⟩ := Routine.done_reaches _ rest _ further
    rw [List.append_nil]
    have given : outcome.bind Reply.outcome = .ok result := Routine.done.inj same.symm
    cases outcome with
    | error fault => cases given
    | ok reply => exact ⟨reply, there, given⟩

theorem judging_needs (rule : Freshness.Rule) (result : Json) (judged : List (World ν))
    (allowed : (request.judging rule result).Reaches judged (.done true)) :
    rule.isCacheable request.call.method = true ∧ result ≠ .null := by
  rw [judging, Freshness.Rule.allows_eq] at allowed
  have refused (settled : rule.verdict request.call (some result) = .settled false) : False := by
    rw [settled] at allowed
    have last := (Routine.done_reaches false judged _ allowed).2
    cases last
  constructor
  · by_cases listed : request.call.method ∈ rule.cacheable
    · simpa [Freshness.Rule.isCacheable] using listed
    · exact (refused (Freshness.verdict_not_cacheable rule request.call _ listed)).elim
  · intro null
    exact refused (Freshness.verdict_no_result rule request.call _ (.inr (congrArg some null)))

def Next (found : List (World ν)) (left : Routine (World ν) (Except Fault Json)) (world : World ν) :
    Prop :=
  world.Untouched (left.advance world).2 ∨
    ∃ store result, request.Keeps found store result ∧
      left.advance world =
        (.done (.ok result), world.stored store request.fingerprint result)

theorem within_next (found states : List (World ν))
    (routine left : Routine (World ν) (Except Fault Json)) (quiet : Quiet ν _ routine)
    (reached : routine.Reaches states left) (world : World ν) : request.Next found left world :=
  .inl (Routine.advance_within _ World.Untouched.refl left
    (Routine.reaches_within _ _ quiet states left reached) world)

-- The next transition is one of the part that the rest waits for.
theorem part_next {α : Type} (found states : List (World ν)) (first part : Routine (World ν) α)
    (next : α → Routine (World ν) (Except Fault Json)) (quiet : Quiet ν _ first)
    (reached : first.Reaches states part) (running : part.isDone = false) (world : World ν) :
    request.Next found (part >>= next) world := by
  left
  rw [Routine.bind_advance part next world running]
  exact Routine.advance_within _ World.Untouched.refl part
    (Routine.reaches_within _ _ quiet states part reached) world

variable (first second : World ν) (store : Nat)
  (installed : (first.caching request.member).store = some store)
  (listed : (first.caching request.member).rule.isCacheable request.call.method)
  (missed : (second.stores.read store).get? request.fingerprint = none)

include installed listed missed

theorem storing_next (later world : World ν) (passed judged : List (World ν)) (result : Json)
    (reached : request.chain.Reaches passed (.done (.ok result)))
    (same : (later.caching request.member).store = some store)
    (left : Routine (World ν) (Except Fault Json))
    (further : (request.storing (later.caching request.member) result).Reaches judged left) :
    request.Next (first :: second :: passed ++ later :: judged) left world := by
  rw [storing_parts, same] at further
  have quiet : Quiet ν _ (request.judging (later.caching request.member).rule result) :=
    allows_quiet request.member.client request.member.node _ request.call _
  rcases Routine.bind_reaches _ _ _ _ further with
    ⟨part, there, running, rfl⟩ | ⟨early, late, allowed, rfl, there, rest⟩
  · exact request.part_next _ judged _ part _ quiet there running world
  · cases allowed with
    | false =>
        rw [(Routine.done_reaches _ late _ rest).2]
        exact .inl (.refl world)
    | true =>
        rcases Routine.step_reaches _ _ late _ rest with ⟨rfl, rfl⟩ | ⟨_, after, rfl, ended⟩
        · right
          obtain ⟨reply, passes, outcome⟩ := request.chain_passed passed result reached
          obtain ⟨stillListed, present⟩ := request.judging_needs _ result early there
          obtain ⟨sound, given⟩ := outcome_present reply result outcome present
          rw [List.append_nil]
          exact ⟨store, result, .request first second later passed early store reply result installed
            listed missed passes sound given present same stillListed there, rfl⟩
        · rw [(Routine.done_reaches _ after _ ended).2]
          exact .inl (.refl world)

theorem missing_next (world : World ν) (rest : List (World ν))
    (same : ∀ later ∈ rest, (later.caching request.member).store = some store)
    (left : Routine (World ν) (Except Fault Json)) (further : request.missing.Reaches rest left) :
    request.Next (first :: second :: rest) left world := by
  rcases Routine.bind_reaches _ _ _ _ further with
    ⟨part, there, running, rfl⟩ | ⟨passed, late, outcome, rfl, there, after⟩
  · exact request.part_next _ rest _ part _ (chain_quiet request) there running world
  · cases outcome with
    | error fault =>
        rw [(Routine.done_reaches _ late _ after).2]
        exact .inl (.refl world)
    | ok result =>
        rcases Routine.step_reaches _ _ late _ after with ⟨rfl, rfl⟩ | ⟨later, judged, rfl, ended⟩
        · exact .inl (.refl world)
        · exact request.storing_next first second store installed listed missed later world passed
            judged result there
            (same later (List.mem_append_right _ List.mem_cons_self)) left ended

end Issued

namespace Issued

variable (request : Issued ν) (found : List (World ν))

theorem request_next (left : Routine (World ν) (Except Fault Json))
    (reached : request.routine.Reaches found left)
    (steady : ∀ one ∈ found, ∀ other ∈ found,
      (other.caching request.member).store = (one.caching request.member).store)
    (world : World ν) : request.Next found left world := by
  rw [routine_parts] at reached
  rcases Routine.step_reaches _ _ found _ reached with ⟨rfl, rfl⟩ | ⟨first, rest, rfl, further⟩
  · exact .inl (.refl world)
  by_cases apart : ∀ store, ¬ Uses first request.member store request.call
  · rw [starting_apart request first apart] at further
    exact request.within_next _ rest _ left (chain_quiet request) further world
  · obtain ⟨store, uses⟩ := not_forall_not.mp apart
    rw [starting_looking request first store uses] at further
    rcases Routine.step_reaches _ _ rest _ further with ⟨rfl, rfl⟩ | ⟨second, late, rfl, ended⟩
    · exact .inl (.refl world)
    cases held : (second.stores.read store).get? request.fingerprint with
    | some response =>
        rw [held] at ended
        rw [(Routine.done_reaches _ late _ ended).2]
        exact .inl (.refl world)
    | none =>
        rw [held] at ended
        apply request.missing_next first second store uses.installed uses.listed held world late _
          left ended
        intro later inside
        rw [steady first List.mem_cons_self later
          (List.mem_cons_of_mem _ (List.mem_cons_of_mem _ inside))]
        exact uses.installed

theorem keeps_next (store : Nat) (result : Json) (keeps : request.Keeps found store result) :
    request.routine.through found =
      .step (fun world => world.stored store request.fingerprint result) fun _ =>
        .done (.ok result) := by
  cases keeps with
  | request first second later passed judged _ reply _ installed listed missed passes sound given
      present stillInstalled stillListed allowed =>
      have outcome : reply.outcome = .ok result := by
        simp only [Reply.outcome, sound, given, Option.getD_some]
      have looked : request.routine.through (first :: second :: passed ++ later :: judged) =
          request.missing.through (passed ++ later :: judged) := by
        change request.routine.through (first :: second :: (passed ++ later :: judged)) = _
        rw [routine_parts, Routine.through_cons]
        dsimp only [Routine.advance]
        rw [starting_looking request first store ⟨installed, listed⟩, looking, Routine.through_cons]
        dsimp only [Routine.advance]
        rw [missed]
      have back : request.missing.through passed =
          .step id fun world => request.storing (world.caching request.member) result := by
        rw [missing, chain_parts, bind_assoc, Routine.bind_passed _ _ passed _ passes]
        refine (pure_bind (m := Routine (World ν)) _ _).trans ((pure_bind _ _).trans ?_)
        dsimp only [Except.bind]
        rw [outcome]
      rw [looked, Routine.through_append, back]
      change (request.storing (later.caching request.member) result).through judged = _
      rw [storing_parts, stillInstalled, Routine.bind_passed _ _ judged _ allowed]
      rfl

end Issued

namespace Flights

variable (world : World ν) (requests : List (Issued ν)) (choices : List (Choice ν))
  (choice : Choice ν)

section Kept

variable (index : Nat) (flight : Flight ν)
  (named : ((issue world requests).run choices).each[index]? = some flight)
  (kept : flight.dropped = false)

include named kept

theorem flight_keeps (store : Nat) (result : Json)
    (keeps : flight.request.Keeps flight.found store result) :
    let before := (issue world requests).run choices
    let after := before.step (.advance index)
    after.Completed index (.ok result) ∧ ∀ other, after.world.stores.read other =
      if other = store then
        ((before.world.stores.read store).insert flight.request.fingerprint result).1
      else before.world.stores.read other := by
  have left : flight.left = _ := flight.request.keeps_next flight.found store result keeps
  have active : flight.isActive = true := by
    rw [Flight.isActive, kept, left]
    rfl
  obtain ⟨later, there⟩ := active_advanced _ index flight named active
  rw [left] at later
  refine ⟨⟨_, there, kept, ?_⟩, fun other => ?_⟩
  · rw [flight.advanced_left, left]
    rfl
  · rw [later]
    exact stored_read _ store other _ result

end Kept

theorem unkept_flights
    (nothing : ∀ index flight store result, choice = .advance index →
      ((issue world requests).run choices).each[index]? = some flight → flight.dropped = false →
        ¬ flight.request.Keeps flight.found store result) :
    (((issue world requests).run choices).step choice).world.stores =
      ((issue world requests).run choices).world.stores := by
  cases choice with
  | advance index =>
      rcases ((issue world requests).run choices).advance_cases index with
        ⟨flight, named, active, later, _⟩ | same
      · have kept := flight.active_kept active
        rcases flight.request.request_next flight.found flight.left
          (flight_reaches world requests choices index flight named)
          (found_steady world requests choices index flight named)
          ((issue world requests).run choices).world with quiet | ⟨store, result, keeps, _⟩
        · rw [later]
          exact quiet.stores
        · exact (nothing index flight store result rfl named kept keeps).elim
      · rw [same]
  | _ => rfl

end Flights

theorem step_stores (session : Session ν) (index : Nat) (move : Move ν) :
    (let (outcome, after) := session.step index move;
      (∀ member store fingerprint result, session.members[index]? = some member →
        Keeps session.world member move store fingerprint result →
          outcome = .single (.ok result) ∧
            ∀ other, after.world.stores.read other =
              if other = store then
                ((session.world.stores.read store).insert fingerprint result).1
              else session.world.stores.read other) ∧
      ((∀ member store fingerprint result, session.members[index]? = some member →
          ¬ Keeps session.world member move store fingerprint result) →
        after.world.stores = session.world.stores)) ∧
    ∀ (world : World ν) (requests : List (Issued ν)) (choices : List (Choice ν))
      (choice : Choice ν),
      let before := (Flights.issue world requests).run choices
      let after := before.step choice
      (∀ index flight store result, choice = .advance index → before.each[index]? = some flight →
        flight.dropped = false → flight.request.Keeps flight.found store result →
          after.Completed index (.ok result) ∧
            ∀ other, after.world.stores.read other =
              if other = store then
                ((before.world.stores.read store).insert flight.request.fingerprint result).1
              else before.world.stores.read other) ∧
      ((∀ index flight store result, choice = .advance index →
          before.each[index]? = some flight → flight.dropped = false →
            ¬ flight.request.Keeps flight.found store result) →
        after.world.stores = before.world.stores) := by
  refine ⟨⟨?_, unkept_stores session index move⟩, fun world requests choices choice => ⟨?_, ?_⟩⟩
  · intro member store fingerprint result named keeps
    exact kept_stores session index member move store fingerprint result named keeps
  · rintro index flight store result rfl named kept keeps
    exact Flights.flight_keeps world requests choices index flight named kept store result keeps
  · exact Flights.unkept_flights world requests choices choice

end RequestLayer
