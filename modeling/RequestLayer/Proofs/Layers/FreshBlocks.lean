import RequestLayer.Proofs.Alone.Runner
import RequestLayer.Proofs.Layers.Answers
import RequestLayer.Proofs.Session.Basic

set_option autoImplicit false

namespace RequestLayer

variable {ν : Type}

namespace World

def reading (world : World ν) : Nat := world.clock.readings world.clock.taken

def ticked (world : World ν) : World ν :=
  { world with clock := { world.clock with taken := world.clock.taken + 1 } }

def recalled (world : World ν) (memory : Nat) : Option Header := world.latest.read memory

def remembering (world : World ν) (memory : Nat) (header : Header) : World ν :=
  { world with latest := world.latest.write memory (some header) }

-- A node that counts the calls made to it shows here that it was called once.
def answered (world : World ν) (node : Node ν) : World ν :=
  { world with
    outside := (node.send ⟨"eth_getBlockByNumber", [.string "latest", .bool false]⟩ world.outside).2 }

def answer (world : World ν) (node : Node ν) : Except Fault Reply :=
  (node.send ⟨"eth_getBlockByNumber", [.string "latest", .bool false]⟩ world.outside).1

end World

namespace StaleCheck

def request (mode : Mode) (node : Node ν) (check : StaleCheck) (memory : Nat) (call : Call) :
    StateM (World ν) (Except Fault Params) :=
  mode.run fun _ _ _ _ =>
    ((Layer.staleness check memory : Layer ν).hooks.onRequest node.channel call).run

-- A block is fresh until the delay has passed; one of the future is.
def Fresh (check : StaleCheck) (header : Header) (now : Nat) : Prop :=
  ∃ timestamp, header.timestamp = some timestamp ∧ now - timestamp ≤ check.allowed.seconds

-- The world after the memory was looked at. Only a block with a time is compared with the clock.
def looked (memory : Nat) (world : World ν) : World ν :=
  match (world.recalled memory).bind Header.timestamp with
  | some _ => world.ticked
  | none => world

def Current (check : StaleCheck) (memory : Nat) (world : World ν) : Prop :=
  ∃ header, world.recalled memory = some header ∧ check.Fresh header world.reading

def Outdated (check : StaleCheck) (memory : Nat) (world : World ν) : Prop :=
  ∀ header, world.recalled memory = some header → ∃ timestamp,
    header.timestamp = some timestamp ∧ check.allowed.seconds < world.reading - timestamp

inductive Judges (check : StaleCheck) (memory : Nat) (params : Params) (world : World ν)
    (answer : Except Fault Reply) : Except Fault Params → World ν → Prop
  | failed (fault : Fault) (failed : Answers Header.ofResult answer (.error fault)) :
      Judges check memory params world answer (.error fault) world
  | untimed (header : Header) (block : Answers Header.ofResult answer (.ok header))
      (untimed : header.timestamp = none) :
      Judges check memory params world answer (.error (.staleChain header.number 0 check.allowed))
        world
  | stale (header : Header) (timestamp : Nat) (block : Answers Header.ofResult answer (.ok header))
      (timed : header.timestamp = some timestamp)
      (old : check.allowed.seconds < world.reading - timestamp) :
      Judges check memory params world answer
        (.error (.staleChain header.number timestamp check.allowed)) world.ticked
  | fresh (header : Header) (block : Answers Header.ofResult answer (.ok header))
      (fresh : check.Fresh header world.reading) :
      Judges check memory params world answer (.ok params) (world.ticked.remembering memory header)

inductive Step (check : StaleCheck) (memory : Nat) (node : Node ν) (call : Call)
    (before : World ν) : Option (Except Fault Reply) → Except Fault Params → World ν → Prop
  | skipped (exempt : call.method ∈ check.skipped) :
      Step check memory node call before none (.ok call.params) before
  | remembered (examined : call.method ∉ check.skipped) (current : Current check memory before) :
      Step check memory node call before none (.ok call.params) before.ticked
  | asked (outcome : Except Fault Params) (after : World ν) (examined : call.method ∉ check.skipped)
      (due : ¬ Current check memory before)
      (judges : Judges check memory call.params ((looked memory before).answered node)
        ((looked memory before).answer node) outcome after) :
      Step check memory node call before (some ((looked memory before).answer node)) outcome after

section Request

variable (mode : Mode) (node : Node ν) (check : StaleCheck) (memory : Nat) (call : Call)

theorem request_both : request mode node check memory call =
    ((Layer.staleness check memory : Layer ν).hooks.onRequest node.channel call).run := by
  apply Member.run_alike mode
  have same : (node.channel : Channel (Routine (World ν))).Alike (RunsAs (World ν)) node.channel :=
    ⟨fun _ => rfl, fun _ => rfl⟩
  exact (layer_runs_as (.staleness check memory)).onRequest _ _ same call

theorem covers_iff_fresh (header : Header) (timestamp now : Nat)
    (timed : header.timestamp = some timestamp) :
    check.covers timestamp now = true ↔ check.Fresh header now := by
  unfold covers Fresh
  rw [timed, decide_eq_true_iff]
  simp

def due : StateM (World ν) Bool :=
  check.isDue (World.latestBlock (ν := ν) memory) (World.now (ν := ν)) call.method

theorem due_run (world : World ν) : due check memory call world =
    if call.method ∈ check.skipped then (false, world)
    else match world.recalled memory with
      | some header => match header.timestamp with
        | some timestamp => (!check.covers timestamp world.reading, world.ticked)
        | none => (true, world)
      | none => (true, world) := by
  unfold due isDue
  by_cases exempt : call.method ∈ check.skipped
  · rw [if_pos exempt, if_pos exempt]
    rfl
  · rw [if_neg exempt, if_neg exempt]
    change (match world.recalled memory with
      | some header => (do return !(← check.isFresh (World.now (ν := ν)) header))
      | none => pure true : StateM (World ν) Bool) world = _
    cases world.recalled memory with
    | none => rfl
    | some header =>
        obtain ⟨number, timestamp, gasLimit, baseFee⟩ := header
        cases timestamp <;> rfl

theorem lift_run {σ α β : Type} (action : StateM σ α) (next : α → ExceptT Fault (StateM σ) β)
    (state : σ) : (ExceptT.lift action >>= next : ExceptT Fault (StateM σ) β).run state =
      (next (action state).1).run (action state).2 :=
  rfl

theorem then_run {σ α β : Type} (first : ExceptT Fault (StateM σ) α)
    (next : α → ExceptT Fault (StateM σ) β) (state : σ) :
    (first >>= next : ExceptT Fault (StateM σ) β).run state =
      match (first.run state).1 with
      | .ok value => (next value).run (first.run state).2
      | .error fault => (.error fault, (first.run state).2) :=
  (Runner.blocking σ).run_bind first next state

theorem request_passes (world after : World ν)
    (settled : due check memory call world = (false, after)) :
    request mode node check memory call world = (.ok call.params, after) := by
  rw [request_both]
  refine (lift_run (due check memory call) _ world).trans ?_
  rw [settled]
  rfl

def judged (world : World ν) : Except Fault Header → Except Fault Unit × World ν
  | .error fault => (.error fault, world)
  | .ok header =>
      match header.timestamp with
      | none => (.error (.staleChain header.number 0 check.allowed), world)
      | some timestamp =>
          if check.covers timestamp world.reading then (.ok (), world.ticked.remembering memory header)
          else (.error (.staleChain header.number timestamp check.allowed), world.ticked)

theorem accept_run (world : World ν) (reply : Reply) :
    (check.accept (World.latestBlock (ν := ν) memory) (World.now (ν := ν)) reply :
      ExceptT Fault (StateM (World ν)) Unit).run world =
      judged check memory world (reply.outcome.bind Header.ofResult) := by
  change (ExceptT.mk (pure (reply.outcome.bind Header.ofResult)) >>= _ :
    ExceptT Fault (StateM (World ν)) Unit).run world = _
  rw [known_then]
  generalize reply.outcome.bind Header.ofResult = block
  cases block with
  | error fault => rfl
  | ok header =>
      obtain ⟨number, timestamp, gasLimit, baseFee⟩ := header
      cases timestamp with
      | none => rfl
      | some timestamp =>
          refine (lift_run (check.isFresh (World.now (ν := ν)) _) _ world).trans ?_
          change (if check.covers timestamp world.reading = true then _ else _ :
            ExceptT Fault (StateM (World ν)) Unit).run world.ticked = _
          unfold judged
          by_cases covered : check.covers timestamp world.reading = true
          · simp only [covered, if_true]
            rfl
          · simp only [covered]
            rfl

theorem request_asks (world looked : World ν)
    (settled : due check memory call world = (true, looked)) :
    request mode node check memory call world =
      let outcome := judged check memory (looked.answered node)
        ((looked.answer node).bind fun reply => reply.outcome.bind Header.ofResult)
      (outcome.1.map fun _ => call.params, outcome.2) := by
  rw [request_both]
  refine (lift_run (due check memory call) _ world).trans ?_
  rw [settled]
  have sent : (node.channel.send (.header .latest) : ExceptT Fault (StateM (World ν)) Reply).run
      looked = (looked.answer node, looked.answered node) := rfl
  refine (then_run (node.channel.send (.header .latest)) _ looked).trans ?_
  rw [sent]
  cases looked.answer node with
  | error fault => rfl
  | ok reply =>
      refine (then_run (check.accept (World.latestBlock (ν := ν) memory) (World.now (ν := ν)) reply) _
        (looked.answered node)).trans ?_
      rw [accept_run]
      have bound : (Except.ok reply : Except Fault Reply).bind
          (fun reply => reply.outcome.bind Header.ofResult) =
        reply.outcome.bind Header.ofResult := rfl
      rw [bound]
      generalize judged check memory (looked.answered node) (reply.outcome.bind Header.ofResult) = done
      obtain ⟨outcome, after⟩ := done
      cases outcome <;> rfl

theorem judged_judges (params : Params) (world : World ν) (answer : Except Fault Reply) :
    let outcome := judged check memory world
      (answer.bind fun reply => reply.outcome.bind Header.ofResult)
    Judges check memory params world answer (outcome.1.map fun _ => params) outcome.2 := by
  have given := answer_cases Header.ofResult Header.header_decodes answer
  generalize (answer.bind fun reply => reply.outcome.bind Header.ofResult) = block at given ⊢
  cases block with
  | error fault => exact .failed fault given
  | ok header =>
      cases timed : header.timestamp with
      | none =>
          simp only [judged, timed]
          exact .untimed header given timed
      | some timestamp =>
          by_cases covered : check.covers timestamp world.reading = true
          · simp only [judged, timed, if_pos covered]
            exact .fresh header given ((covers_iff_fresh check header timestamp _ timed).mp covered)
          · simp only [judged, timed, if_neg covered]
            rw [covers, decide_eq_true_iff] at covered
            exact .stale header timestamp given timed (Nat.lt_of_not_le covered)

theorem due_current (world : World ν) (examined : call.method ∉ check.skipped)
    (current : Current check memory world) : due check memory call world = (false, world.ticked) := by
  obtain ⟨header, recalled, timestamp, timed, young⟩ := current
  have covered := (covers_iff_fresh check header timestamp _ timed).mpr ⟨_, timed, young⟩
  simp only [due_run, if_neg examined, recalled, timed, covered, Bool.not_true]

theorem due_otherwise (world : World ν) (examined : call.method ∉ check.skipped)
    (outdated : ¬ Current check memory world) :
    due check memory call world = (true, looked memory world) := by
  rw [due_run, if_neg examined, looked]
  cases recalled : world.recalled memory with
  | none => rfl
  | some header =>
      cases timed : header.timestamp with
      | none => simp only [Option.bind_some, timed]
      | some timestamp =>
          have old : check.covers timestamp world.reading = false := by
            rw [← Bool.not_eq_true, covers_iff_fresh check header timestamp _ timed]
            exact fun fresh => outdated ⟨header, recalled, fresh⟩
          simp only [Option.bind_some, timed, old, Bool.not_false]

theorem visit_step (world : World ν) : ∃ answer, Step check memory node call world answer
    (request mode node check memory call world).1 (request mode node check memory call world).2 := by
  by_cases exempt : call.method ∈ check.skipped
  · have settled : due check memory call world = (false, world) := by rw [due_run, if_pos exempt]
    rw [request_passes mode node check memory call world world settled]
    exact ⟨none, .skipped exempt⟩
  · by_cases current : Current check memory world
    · have settled := due_current check memory call world exempt current
      rw [request_passes mode node check memory call world world.ticked settled]
      exact ⟨none, .remembered exempt current⟩
    · have settled := due_otherwise check memory call world exempt current
      rw [request_asks mode node check memory call world _ settled]
      exact ⟨_, .asked _ _ exempt current (judged_judges check memory call.params _ _)⟩

end Request

structure Visit (ν : Type) where
  mode : Mode
  call : Call
  before : World ν
  outcome : Except Fault Params
  after : World ν

def Visit.fetched (visit : Visit ν) (node : Node ν) (memory : Nat) : World ν :=
  (looked memory visit.before).answered node

section Visits

variable (node : Node ν) (check : StaleCheck) (memory : Nat)

def visiting (mode : Mode) (call : Call) (world : World ν) : Visit ν :=
  let done := request mode node check memory call world
  ⟨mode, call, world, done.1, done.2⟩

-- Requests one after the other. Between them anything happens, but the memory is not written.
inductive Visits : List (Visit ν) → World ν → Prop
  | start (world : World ν) (new : world.recalled memory = none) : Visits [] world
  | meanwhile (visits : List (Visit ν)) (world other : World ν) (visited : Visits visits world)
      (kept : other.recalled memory = world.recalled memory) : Visits visits other
  | request (visits : List (Visit ν)) (world : World ν) (mode : Mode) (call : Call)
      (visited : Visits visits world) :
      Visits (visits ++ [visiting node check memory mode call world])
        (visiting node check memory mode call world).after

def Reports (visit : Visit ν) (header : Header) : Prop :=
  ∃ answer, Answers Header.ofResult answer (.ok header) ∧
    Step check memory node visit.call visit.before (some answer) visit.outcome visit.after

-- The remembered block has a time, and a visit brought it.
def Backed (visits : List (Visit ν)) (world : World ν) : Prop :=
  ∀ header, world.recalled memory = some header →
    header.timestamp ≠ none ∧ ∃ visit ∈ visits, Reports node check memory visit header

structure Sound (early : List (Visit ν)) (visit : Visit ν) (answer : Option (Except Fault Reply)) :
    Prop where
  step : Step check memory node visit.call visit.before answer visit.outcome visit.after
  exempts : visit.call.method ∈ check.skipped →
    visit.outcome = .ok visit.call.params ∧ visit.after = visit.before
  asks : answer.isSome ↔ visit.call.method ∉ check.skipped ∧ Outdated check memory visit.before
  passes : ∀ params, visit.outcome = .ok params ↔ params = visit.call.params ∧
    ∀ reply, answer = some reply → ∃ header, Answers Header.ofResult reply (.ok header) ∧
      check.Fresh header (visit.fetched node memory).reading
  witnessed : visit.call.method ∉ check.skipped → ∀ params, visit.outcome = .ok params →
    ∃ header turn, check.Fresh header (visit.before.clock.readings turn) ∧
      visit.before.clock.taken ≤ turn ∧ turn < visit.after.clock.taken ∧
      ∃ source ∈ early ++ [visit], Reports node check memory source header
  refuses : ∀ header, Reports node check memory visit header →
    ¬ check.Fresh header (visit.fetched node memory).reading →
      visit.outcome = .error (.staleChain header.number (header.timestamp.getD 0) check.allowed)
  remembers : visit.after.recalled memory = visit.before.recalled memory ∨
    ∃ header, Reports node check memory visit header ∧
      check.Fresh header (visit.fetched node memory).reading ∧
      visit.after.recalled memory = some header
  renews : ∀ header, Reports node check memory visit header →
    check.Fresh header (visit.fetched node memory).reading →
      visit.after.recalled memory = some header
  keeps : ∀ fault, visit.outcome = .error fault →
    visit.after.recalled memory = visit.before.recalled memory

variable {node : Node ν} {check : StaleCheck} {memory : Nat}

theorem looked_recalled (world : World ν) :
    (looked memory world).recalled memory = world.recalled memory := by
  unfold looked
  split <;> rfl

theorem looked_readings (world : World ν) :
    (looked memory world).clock.readings = world.clock.readings := by
  unfold looked
  split <;> rfl

theorem looked_taken (world : World ν) :
    world.clock.taken ≤ (looked memory world).clock.taken := by
  unfold looked
  split
  · exact Nat.le_succ _
  · exact Nat.le_refl _

theorem remembering_recalled (world : World ν) (header : Header) :
    (world.remembering memory header).recalled memory = some header := by
  rw [World.recalled, World.remembering, Slots.read_write, if_pos rfl]

theorem judges_cases {params : Params} {world after : World ν} {answer : Except Fault Reply}
    {outcome : Except Fault Params} (judges : Judges check memory params world answer outcome after) :
    (∃ header, Answers Header.ofResult answer (.ok header) ∧ check.Fresh header world.reading ∧
      outcome = .ok params ∧ after = world.ticked.remembering memory header) ∨
    (∃ fault, outcome = .error fault ∧ after.recalled memory = world.recalled memory ∧
      ∀ header, Answers Header.ofResult answer (.ok header) →
        ¬ check.Fresh header world.reading ∧
          fault = .staleChain header.number (header.timestamp.getD 0) check.allowed) := by
  cases judges with
  | fresh header block fresh => exact .inl ⟨header, block, fresh, rfl, rfl⟩
  | failed fault failed =>
      refine .inr ⟨fault, rfl, rfl, ?_⟩
      intro header block
      cases answers_unique failed block
  | untimed header block untimed =>
      refine .inr ⟨_, rfl, rfl, ?_⟩
      intro other another
      cases answers_unique block another
      rw [untimed]
      exact ⟨fun ⟨timestamp, timed, _⟩ => (by rw [untimed] at timed; cases timed), rfl⟩
  | stale header timestamp block timed old =>
      refine .inr ⟨_, rfl, rfl, ?_⟩
      intro other another
      cases answers_unique block another
      rw [timed]
      refine ⟨?_, rfl⟩
      rintro ⟨found, also, young⟩
      cases timed.symm.trans also
      exact Nat.not_le_of_lt old young

theorem step_unasked {call : Call} {before after : World ν} {outcome : Except Fault Params}
    (step : Step check memory node call before none outcome after) :
    outcome = .ok call.params ∧ after.recalled memory = before.recalled memory ∧
      (call.method ∈ check.skipped ∧ after = before ∨
        call.method ∉ check.skipped ∧ Current check memory before ∧ after = before.ticked) := by
  cases step with
  | skipped exempt => exact ⟨rfl, rfl, .inl ⟨exempt, rfl⟩⟩
  | remembered examined current => exact ⟨rfl, rfl, .inr ⟨examined, current, rfl⟩⟩

theorem step_asked {call : Call} {before after : World ν} {answer : Except Fault Reply}
    {outcome : Except Fault Params}
    (step : Step check memory node call before (some answer) outcome after) :
    answer = (looked memory before).answer node ∧ call.method ∉ check.skipped ∧
      ¬ Current check memory before ∧
      Judges check memory call.params ((looked memory before).answered node) answer outcome after := by
  cases step with
  | asked _ _ examined due judges => exact ⟨rfl, examined, due, judges⟩

theorem reports_answer {visit : Visit ν} {header : Header} {answer : Except Fault Reply}
    (reports : Reports node check memory visit header)
    (step : Step check memory node visit.call visit.before (some answer) visit.outcome visit.after) :
    Answers Header.ofResult answer (.ok header) := by
  obtain ⟨other, block, also⟩ := reports
  rw [(step_asked step).1, ← (step_asked also).1]
  exact block

variable {early : List (Visit ν)} {visit : Visit ν}

theorem due_iff (backed : Backed node check memory early visit.before) :
    ¬ Current check memory visit.before ↔ Outdated check memory visit.before := by
  constructor
  · intro due header recalled
    cases timed : header.timestamp with
    | none => exact absurd timed (backed header recalled).1
    | some timestamp =>
        refine ⟨timestamp, rfl, Nat.lt_of_not_le fun young => due ?_⟩
        exact ⟨header, recalled, timestamp, timed, young⟩
  · rintro outdated ⟨header, recalled, timestamp, timed, young⟩
    obtain ⟨found, also, old⟩ := outdated header recalled
    cases timed.symm.trans also
    exact Nat.not_le_of_lt old young

theorem unasked_sound (backed : Backed node check memory early visit.before)
    (step : Step check memory node visit.call visit.before none visit.outcome visit.after) :
    Sound node check memory early visit none := by
  obtain ⟨passed, kept, cause⟩ := step_unasked step
  have current : visit.call.method ∉ check.skipped →
      Current check memory visit.before ∧ visit.after = visit.before.ticked := by
    intro examined
    obtain ⟨exempt, _⟩ | ⟨_, current⟩ := cause
    · exact absurd exempt examined
    · exact current
  have silent : ∀ header, ¬ Reports node check memory visit header := by
    rintro header ⟨answer, _, asked⟩
    obtain ⟨_, examined, due, _⟩ := step_asked asked
    exact due (current examined).1
  refine ⟨step, ?_, ?_, ?_, ?_, ?_, .inl kept, ?_, fun _ _ => kept⟩
  · intro exempt
    obtain ⟨_, same⟩ | ⟨examined, _⟩ := cause
    · exact ⟨passed, same⟩
    · exact absurd exempt examined
  · constructor
    · rintro ⟨⟩
    · rintro ⟨examined, outdated⟩
      exact absurd (current examined).1 ((due_iff backed).mpr outdated)
  · intro params
    rw [passed]
    constructor
    · rintro ⟨rfl⟩
      exact ⟨rfl, by rintro _ ⟨⟩⟩
    · rintro ⟨rfl, _⟩
      rfl
  · intro examined params _
    obtain ⟨⟨header, recalled, fresh⟩, ticked⟩ := current examined
    obtain ⟨_, source, member, reports⟩ := backed header recalled
    refine ⟨header, visit.before.clock.taken, fresh, Nat.le_refl _, ?_, source, ?_, reports⟩
    · rw [ticked]
      exact Nat.lt_succ_self _
    · exact List.mem_append_left _ member
  · exact fun header reports => absurd reports (silent header)
  · exact fun header reports => absurd reports (silent header)

theorem asked_due {answer : Except Fault Reply}
    (backed : Backed node check memory early visit.before)
    (step : Step check memory node visit.call visit.before (some answer) visit.outcome visit.after) :
    (some answer).isSome ↔
      visit.call.method ∉ check.skipped ∧ Outdated check memory visit.before := by
  obtain ⟨_, examined, due, _⟩ := step_asked step
  exact ⟨fun _ => ⟨examined, (due_iff backed).mp due⟩, fun _ => rfl⟩

-- A visit that brings a fresh block. The clock is read once more after the node has answered.
theorem renewed_sound {answer : Except Fault Reply} (header : Header)
    (backed : Backed node check memory early visit.before)
    (step : Step check memory node visit.call visit.before (some answer) visit.outcome visit.after)
    (block : Answers Header.ofResult answer (.ok header))
    (fresh : check.Fresh header (visit.fetched node memory).reading)
    (passed : visit.outcome = .ok visit.call.params)
    (renewed : visit.after = (visit.fetched node memory).ticked.remembering memory header) :
    Sound node check memory early visit (some answer) := by
  have examined := (step_asked step).2.1
  have reports : Reports node check memory visit header := ⟨answer, block, step⟩
  have recalled : visit.after.recalled memory = some header := by
    rw [renewed]
    exact remembering_recalled _ header
  refine ⟨step, fun exempt => absurd exempt examined, asked_due backed step, ?_, ?_, ?_, ?_, ?_, ?_⟩
  · intro params
    rw [passed]
    constructor
    · rintro ⟨rfl⟩
      exact ⟨rfl, by rintro _ ⟨rfl⟩; exact ⟨header, block, fresh⟩⟩
    · rintro ⟨rfl, _⟩
      rfl
  · intro _ params _
    have readings : (visit.fetched node memory).clock.readings = visit.before.clock.readings :=
      looked_readings visit.before
    refine ⟨header, (visit.fetched node memory).clock.taken, ?_, looked_taken visit.before, ?_, visit,
      List.mem_append_right _ (List.mem_singleton.mpr rfl), reports⟩
    · rw [← readings]
      exact fresh
    · rw [renewed]
      exact Nat.lt_succ_self _
  · intro other also old
    cases answers_unique block (reports_answer also step)
    exact absurd fresh old
  · exact .inr ⟨header, reports, fresh, recalled⟩
  · intro other also _
    cases answers_unique block (reports_answer also step)
    exact recalled
  · intro fault failed
    rw [passed] at failed
    cases failed

theorem refused_sound {answer : Except Fault Reply} (fault : Fault)
    (backed : Backed node check memory early visit.before)
    (step : Step check memory node visit.call visit.before (some answer) visit.outcome visit.after)
    (refused : visit.outcome = .error fault)
    (kept : visit.after.recalled memory = visit.before.recalled memory)
    (aged : ∀ header, Answers Header.ofResult answer (.ok header) →
      ¬ check.Fresh header (visit.fetched node memory).reading ∧
        fault = .staleChain header.number (header.timestamp.getD 0) check.allowed) :
    Sound node check memory early visit (some answer) := by
  have examined := (step_asked step).2.1
  refine ⟨step, fun exempt => absurd exempt examined, asked_due backed step, ?_, ?_, ?_, .inl kept, ?_,
    fun _ _ => kept⟩
  · intro params
    rw [refused]
    constructor
    · rintro ⟨⟩
    · rintro ⟨_, brought⟩
      obtain ⟨header, block, fresh⟩ := brought answer rfl
      exact absurd fresh (aged header block).1
  · intro _ params passed
    rw [refused] at passed
    cases passed
  · intro header reports _
    rw [refused, (aged header (reports_answer reports step)).2]
  · intro header reports fresh
    exact absurd fresh (aged header (reports_answer reports step)).1

theorem step_sound {answer : Option (Except Fault Reply)}
    (backed : Backed node check memory early visit.before)
    (step : Step check memory node visit.call visit.before answer visit.outcome visit.after) :
    Sound node check memory early visit answer := by
  cases answer with
  | none => exact unasked_sound backed step
  | some answer =>
      obtain ⟨header, block, fresh, passed, renewed⟩ | ⟨fault, refused, kept, aged⟩ :=
        judges_cases (step_asked step).2.2.2
      · exact renewed_sound header backed step block fresh passed renewed
      · exact refused_sound fault backed step refused (kept.trans (looked_recalled visit.before)) aged

theorem sound_backed {answer : Option (Except Fault Reply)}
    (backed : Backed node check memory early visit.before)
    (sound : Sound node check memory early visit answer) :
    Backed node check memory (early ++ [visit]) visit.after := by
  intro header recalled
  obtain kept | ⟨renewed, reports, ⟨timestamp, timed, _⟩, remembered⟩ := sound.remembers
  · obtain ⟨timed, source, member, reports⟩ := backed header (kept ▸ recalled)
    exact ⟨timed, source, List.mem_append_left _ member, reports⟩
  · cases remembered.symm.trans recalled
    rw [timed]
    exact ⟨nofun, visit, List.mem_append_right _ (List.mem_singleton.mpr rfl), reports⟩

theorem visits_backed {visits : List (Visit ν)} {world : World ν}
    (visited : Visits node check memory visits world) :
    Backed node check memory visits world := by
  induction visited with
  | start world new =>
      intro header recalled
      rw [new] at recalled
      cases recalled
  | meanwhile visits world other visited kept ih =>
      intro header recalled
      exact ih header (kept ▸ recalled)
  | request visits world mode call visited ih =>
      obtain ⟨answer, step⟩ := visit_step mode node check memory call world
      have sound : Sound node check memory visits (visiting node check memory mode call world)
        answer := step_sound ih step
      exact sound_backed ih sound

theorem visits_before {visits late : List (Visit ν)} {world : World ν}
    (visited : Visits node check memory visits world) (place : visits = early ++ visit :: late) :
    Visits node check memory early visit.before ∧
      visit = visiting node check memory visit.mode visit.call visit.before := by
  induction visited generalizing late with
  | start world new => cases early <;> cases place
  | meanwhile visits world other visited kept ih => exact ih place
  | request visits world mode call visited ih =>
      obtain rfl | ⟨rest, last, rfl⟩ := late.eq_nil_or_concat
      · obtain ⟨rfl, same⟩ := List.append_inj' place rfl
        cases same
        exact ⟨visited, rfl⟩
      · rw [List.concat_eq_append, ← List.cons_append, ← List.append_assoc] at place
        exact ih (List.append_inj' place rfl).1

-- Whatever the node answers and the clock shows, the check keeps to what it remembers.
theorem visits_witnessed (early late : List (Visit ν)) (visit : Visit ν) (world : World ν)
    (visited : Visits node check memory (early ++ visit :: late) world) :
    ∃ answer, Sound node check memory early visit answer := by
  obtain ⟨earlier, same⟩ := visits_before visited rfl
  rw [same]
  obtain ⟨answer, step⟩ := visit_step visit.mode node check memory visit.call visit.before
  exact ⟨answer, step_sound (visits_backed earlier) step⟩

def stuck : Node Unit where
  send _ outside :=
    (.ok (.success (.object [("number", .string "0x10"), ("timestamp", .string "0x5a")])), outside)
  sendBatch _ outside := (.ok [], outside)

-- Two requests pass by one block. When the third one asks, the block is too old, but stays remembered.
theorem visits_witnessed_aging : ∃ early visit answer,
    Sound stuck ⟨.ofSeconds 60, []⟩ 0 early visit answer ∧
      early.map Visit.outcome = [.ok [], .ok []] ∧
      visit.outcome = .error (.staleChain 16 90 (.ofSeconds 60)) ∧
      visit.after.recalled 0 = some ⟨16, some 90, none, none⟩ := by
  let call : Call := ⟨"eth_getBalance", []⟩
  let next := visiting stuck ⟨.ofSeconds 60, []⟩ 0 .blocking call
  let world : World Unit := .start () ⟨fun turn => 100 + 30 * turn, 0⟩
  let knowing := (world.remembering 0 ⟨16, some 90, none, none⟩).ticked
  let first : Visit Unit := ⟨.blocking, call, world, .ok [], knowing⟩
  let second : Visit Unit := ⟨.blocking, call, knowing, .ok [], knowing.ticked⟩
  have asked : next world = first := rfl
  have remembered : next knowing = second := rfl
  have one : Visits stuck ⟨.ofSeconds 60, []⟩ 0 [first] knowing :=
    asked ▸ .request [] world .blocking call (.start world rfl)
  have two : Visits stuck ⟨.ofSeconds 60, []⟩ 0 [first, second] knowing.ticked :=
    remembered ▸ .request [first] knowing .blocking call one
  obtain ⟨answer, sound⟩ := visits_witnessed [first, second] [] (next knowing.ticked) _
    (.request [first, second] knowing.ticked .blocking call two)
  exact ⟨[first, second], next knowing.ticked, answer, sound, rfl, rfl, rfl⟩

end Visits

end StaleCheck

end RequestLayer
