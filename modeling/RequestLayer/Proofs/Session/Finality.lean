import Mathlib.Logic.Relation
import RequestLayer.Proofs.Freshness.SideCalls
import RequestLayer.Proofs.Session.Survival

set_option autoImplicit false

namespace RequestLayer

variable {ν : Type}

abbrev Later (moves : ν → ν → Prop) : ν → ν → Prop := Relation.ReflTransGen moves

def Node.answer (node : Node ν) (call : Call) (state : ν) : Except Fault Json :=
  (node.send call state).1.bind Reply.outcome

structure ByNumber (call : Call) (number : Nat) : Prop where
  group : call.method ∈ Freshness.methodsByNumber
  named : Freshness.Names call.params (.number number)

-- A node on a chain whose blocks up to `final` are there to stay. It never names a later block as
-- finalized, and what it answers about a final block it answers from then on.
structure Finalizing (node : Node ν) (moves : ν → ν → Prop) (final : ν → Nat) : Prop where
  sends : ∀ call state, Later moves state (node.send call state).2
  grows : ∀ state next, moves state next → final state ≤ final next
  reports : ∀ state number,
    Freshness.Finds (node.send (.header .finalized) state).1 number → number ≤ final state
  settles : ∀ state next call number, moves state next → ByNumber call number →
    number ≤ final state → node.answer call next = node.answer call state

section Chain

variable (node : Node ν) (moves : ν → ν → Prop) (final : ν → Nat)
  (finalizing : Finalizing node moves final)

include finalizing

theorem final_grows (state next : ν) (later : Later moves state next) :
    final state ≤ final next := by
  induction later with
  | refl => exact Nat.le_refl _
  | tail _ moved ih => exact Nat.le_trans ih (finalizing.grows _ _ moved)

theorem final_answer_stays (call : Call) (number : Nat) (state next : ν)
    (byNumber : ByNumber call number) (reached : number ≤ final state)
    (later : Later moves state next) : node.answer call next = node.answer call state := by
  induction later with
  | refl => rfl
  | tail earlier moved ih =>
      have still := Nat.le_trans reached (final_grows node moves final finalizing state _ earlier)
      exact (finalizing.settles _ _ call number moved byNumber still).trans ih

end Chain

def Asks (node : Node ν) (moves : ν → ν → Prop) (call : Call)
    (action : ExceptT Fault (StateM (World ν)) Reply) : Prop :=
  ∀ world, ∃ asked, Later moves world.outside asked ∧
    (action.run world).1 = (node.send call asked).1 ∧
    Later moves (node.send call asked).2 (action.run world).2.outside

theorem node_channel_asks (node : Node ν) (moves : ν → ν → Prop) (call : Call) :
    Asks node moves call ((node.channel : Channel (StateM (World ν))).send call) :=
  fun world => ⟨world.outside, .refl, rfl, .refl⟩

theorem bind_ran {σ α β : Type} (first : StateM σ α) (next : α → StateM σ β) (state later : σ)
    (value : α) (ran : first state = (value, later)) : (first >>= next) state = next value later := by
  change (match first state with | (value, later) => next value later) = _
  rw [ran]

theorem allows_number_run {σ : Type} (rule : Freshness.Rule) (channel : Channel (StateM σ))
    (call : Call) (result : Option Json) (threshold : Freshness.Threshold) (number : Nat)
    (limit? : Option Nat) (state after : σ)
    (depends : rule.verdict call result = .depends threshold (.number number))
    (found : Freshness.Rule.headerNumber? channel (.header threshold.tag) state = (limit?, after)) :
    rule.allows channel call result state =
      ((limit?.map fun limit => decide (number ≤ limit)).getD false, after) := by
  rw [Freshness.Rule.allows_eq, depends]
  refine (bind_ran (Freshness.Rule.anchorNumber? _ (.number number)) _ state state (some number)
    rfl).trans ?_
  refine (bind_ran (Freshness.Rule.headerNumber? _ (.header threshold.tag)) _ state after limit?
    found).trans ?_
  cases limit? <;> rfl

section Attempts

variable (sleep : StateM (World ν) Unit) (action : ExceptT Fault (StateM (World ν)) Reply)
  (more : Nat) (world next : World ν) (fault : Fault)

theorem repeated_again (attempted : action.run world = (.error fault, next))
    (failed : fault.isTransport = true) :
    (Retry.repeated sleep action (more + 1)).run world =
      (Retry.repeated sleep action more).run (sleep next).2 := by
  refine (bind_ran action.run _ world next _ attempted).trans ?_
  dsimp only
  rw [if_pos failed]
  rfl

theorem repeated_given_up (attempted : action.run world = (.error fault, next))
    (final : ¬ fault.isTransport = true) :
    (Retry.repeated sleep action (more + 1)).run world = (.error fault, next) := by
  refine (bind_ran action.run _ world next _ attempted).trans ?_
  dsimp only
  rw [if_neg final]
  rfl

theorem repeated_answered (reply : Reply) (attempted : action.run world = (.ok reply, next)) :
    (Retry.repeated sleep action (more + 1)).run world = (.ok reply, next) :=
  bind_ran action.run _ world next _ attempted

end Attempts

section Channels

variable (node : Node ν) (moves : ν → ν → Prop)
  (sends : ∀ call state, Later moves state (node.send call state).2)

include sends

-- The outcome is the one of the last attempt; those before it and the delays are time that passes.
theorem repeated_asks (call : Call) (sleep : StateM (World ν) Unit)
    (idle : ∀ world, (sleep world).2.outside = world.outside)
    (action : ExceptT Fault (StateM (World ν)) Reply) (more : Nat)
    (asks : Asks node moves call action) : Asks node moves call (Retry.repeated sleep action more) := by
  induction more with
  | zero =>
      rw [Retry.repeated_zero]
      exact asks
  | succ more ih =>
      intro world
      obtain ⟨asked, before, outcome, after⟩ := asks world
      cases attempted : action.run world with
      | mk ended next =>
          rw [attempted] at outcome after
          cases ended with
          | ok reply =>
              rw [repeated_answered sleep action more world next reply attempted]
              exact ⟨asked, before, outcome, after⟩
          | error fault =>
              by_cases failed : fault.isTransport = true
              · rw [repeated_again sleep action more world next fault attempted failed]
                obtain ⟨last, waited, lastOutcome, rest⟩ := ih (sleep next).2
                rw [idle] at waited
                have passed := (before.trans (sends call asked)).trans after
                exact ⟨last, passed.trans waited, lastOutcome, rest⟩
              · rw [repeated_given_up sleep action more world next fault attempted failed]
                exact ⟨asked, before, outcome, after⟩

theorem client_channel_asks (client : Client ν) (call : Call) :
    Asks node moves call ((client.channel node : Channel (StateM (World ν))).send call) := by
  unfold Client.channel
  cases client.retry with
  | none => exact node_channel_asks node moves call
  | some retry =>
      exact repeated_asks node moves sends call _ (fun _ => rfl) _ _
        (node_channel_asks node moves call)

theorem header_asked (client : Client ν) (call : Call) (world after : World ν) (number : Nat)
    (read : Freshness.Rule.headerNumber? (client.channel node : Channel (StateM (World ν))) call world =
      (some number, after)) :
    ∃ asked, Later moves world.outside asked ∧
      Freshness.Finds (node.send call asked).1 number ∧
      Later moves (node.send call asked).2 after.outside := by
  obtain ⟨asked, before, outcome, rest⟩ := client_channel_asks node moves sends client call world
  obtain ⟨found, rfl⟩ := Prod.mk.inj read
  change Freshness.blockNumber?
    (((client.channel node : Channel (StateM (World ν))).send call).run world).1 = _ at found
  rw [outcome] at found
  exact ⟨asked, before, (Freshness.block_number_iff _ number).mp found, rest⟩

end Channels

namespace Member

variable (member : Member ν) (moves : ν → ν → Prop) (final : ν → Nat)
  (finalizing : Finalizing member.node moves final)

include finalizing

theorem bare_passed (call : Call) (bare : member.client.stack.items = []) :
    Asks member.node moves call (ExceptT.mk (member.passed call)) := by
  intro world
  have direct : member.passed call =
      ((member.client.channel member.node : Channel (StateM (World ν))).send call).run := by
    rw [passed_blocking, bare]
    change ((member.client.channel member.node).send call >>= pure).run = _
    rw [bind_pure]
  rw [ExceptT.run_mk, direct]
  exact client_channel_asks member.node moves finalizing.sends member.client call world

theorem allowed_final (rule : Freshness.Rule) (call : Call) (number : Nat) (result : Json)
    (world : World ν) (bound : rule.threshold = some .finalized) (byNumber : ByNumber call number)
    (allowed : (member.allows rule call result world).1 = true) :
    ∃ read, Later moves world.outside read ∧ number ≤ final read ∧
      Later moves (member.node.send (.header .finalized) read).2
        (member.allows rule call result world).2.outside := by
  obtain ⟨listed, present⟩ := member.allows_needs call world rule result allowed
  have pending : Freshness.Pending rule call.method (some result) .finalized result :=
    ⟨List.contains_iff_mem.mp listed, rfl, present, bound⟩
  have depends : rule.verdict call (some result) = .depends .finalized (.number number) := by
    rw [Freshness.verdict_by_number rule call _ .finalized result pending byNumber.group,
      (Freshness.names_iff _ _).mp byNumber.named]
  rw [allows_blocking] at allowed ⊢
  cases found : Freshness.Rule.headerNumber? (member.client.channel member.node :
      Channel (StateM (World ν))) (.header .finalized) world with
  | mk limit? after =>
      have run := allows_number_run rule _ call (some result) .finalized number limit? world after
        depends found
      rw [run] at allowed ⊢
      cases limit? with
      | none => cases allowed
      | some limit =>
          obtain ⟨read, before, finds, rest⟩ := header_asked member.node moves finalizing.sends
            member.client _ world after limit found
          have within : number ≤ limit := of_decide_eq_true allowed
          exact ⟨read, before, Nat.le_trans within (finalizing.reports read limit finds), rest⟩

-- The two calls behind a response that is stored, and the time that passes around them.
theorem kept_between (before : World ν) (context : Context) (call : Call) (number store : Nat)
    (fingerprint : Fingerprint) (result : Json) (bare : member.client.stack.items = [])
    (bound : (before.caching member).rule.threshold = some .finalized)
    (byNumber : ByNumber call number)
    (keeps : Keeps before member (.act (.request context call)) store fingerprint result) :
    ∃ asked read, Later moves before.outside asked ∧ member.node.answer call asked = .ok result ∧
      Later moves (member.node.send call asked).2 read ∧ number ≤ final read ∧
      Later moves (member.node.send (.header .finalized) read).2
        (member.request context call before).2.outside := by
  cases keeps with
  | request _ _ _ reply _ later installed listed missed passed sound given _ _ allowed =>
      obtain ⟨outcome, resolved⟩ :=
        passed_resolved member call before later reply result passed sound given
      obtain ⟨asked, earlier, given, after⟩ := member.bare_passed moves final finalizing call bare before
      have same : later.caching member = before.caching member := by
        have untouched := member.passed_untouched call before
        rw [passed] at untouched
        rw [World.caching, untouched.clients]
        rfl
      obtain ⟨read, waited, reached, rest⟩ := member.allowed_final moves final finalizing
        (later.caching member).rule call number result later (same ▸ bound) byNumber allowed
      rw [ExceptT.run_mk, passed] at given after
      refine ⟨asked, read, earlier, ?_, after.trans waited, reached, ?_⟩
      · rw [Node.answer, ← given]
        exact outcome
      · rw [member.request_missed context call before store installed listed missed, resolved]
        simp only [finished, if_pos allowed]
        exact rest

end Member

theorem step_request (session : Session ν) (index : Nat) (member : Member ν) (context : Context)
    (call : Call) (named : session.members[index]? = some member) :
    (session.step index (.act (.request context call))).2.world =
      (member.request context call session.world).2 := by
  unfold Session.step
  rw [named]
  rfl

theorem stored_by_number (moves : ν → ν → Prop) (final : ν → Nat) (session : Session ν) (index : Nat)
    (member : Member ν) (context : Context) (call : Call) (number store : Nat)
    (fingerprint : Fingerprint) (result : Json)
    (finalizing : Finalizing member.node moves final)
    (named : session.members[index]? = some member) (bare : member.client.stack.items = [])
    (bound : (session.world.caching member).rule.threshold = some .finalized)
    (byNumber : ByNumber call number)
    (keeps : Keeps session.world member (.act (.request context call)) store fingerprint result) :
    ∃ asked read, Later moves session.world.outside asked ∧
      member.node.answer call asked = .ok result ∧
      Later moves (member.node.send call asked).2 read ∧ number ≤ final read ∧
      Later moves (member.node.send (.header .finalized) read).2
        (session.step index (.act (.request context call))).2.world.outside ∧
      ((∀ next, Later moves read next → member.node.answer call next = .ok result) ↔
        member.node.answer call read = .ok result) ∧
      (number ≤ final asked →
        ∀ next, Later moves asked next → member.node.answer call next = .ok result) := by
  obtain ⟨asked, read, earlier, given, between, reached, rest⟩ := member.kept_between moves final
    finalizing session.world context call number store fingerprint result bare bound byNumber keeps
  have stays := final_answer_stays member.node moves final finalizing call number
  refine ⟨asked, read, earlier, given, between, reached, ?_, ?_, ?_⟩
  · rw [step_request session index member context call named]
    exact rest
  · constructor
    · intro lasting
      exact lasting read .refl
    · intro still next later
      exact (stays read next byNumber reached later).trans still
  · intro already next later
    exact (stays asked next byNumber already later).trans given

def turning : Node Bool where
  send call turned := (.ok (.success (match call.params.head?.bind BlockRef.ofJson? with
    | some (.tag .finalized) => .object [("number", .number (.integer (if turned then 5 else 4)))]
    | some (.number number) => .string (if turned || decide (number < 5) then "0x2" else "0x1")
    | _ => .null)), true)
  sendBatch calls _ := (.ok (calls.map fun _ => .success .null), true)

def turns (_ next : Bool) : Prop := next = true

theorem turning_finalizing : Finalizing turning turns fun turned => if turned then 5 else 4 where
  sends _ _ := .single rfl
  grows := by
    rintro state _ rfl
    cases state <;> decide
  reports := by
    intro state number finds
    have read := (Freshness.block_number_iff _ number).mpr finds
    cases state with
    | false => exact Nat.le_of_eq (Option.some.inj (read.symm.trans rfl : some number = some 4))
    | true => exact Nat.le_of_eq (Option.some.inj (read.symm.trans rfl : some number = some 5))
  settles := by
    rintro state _ call number rfl byNumber reached
    have named := (Freshness.names_iff _ _).mp byNumber.named
    cases state with
    | true => rfl
    | false =>
        have early : number < 5 := Nat.lt_succ_of_le reached
        simp only [Node.answer, turning, named]
        rw [decide_eq_true early]
        rfl

theorem turned_later (next : Bool) (later : Later turns true next) : next = true := by
  cases later with
  | refl => rfl
  | tail _ moved => exact moved

def countOfFive : Call := ⟨"eth_getBlockTransactionCountByNumber", [.string "0x5"]⟩

theorem count_of_five : ByNumber countOfFive 5 := ⟨by decide, .string "0x5", rfl, by decide⟩

def turningReader : Member Bool := ⟨.blocking, turning, ⟨1, some .standard, .empty⟩⟩

def turningSession (turned : Bool) : Session Bool :=
  let create : StateM (World Bool) (Client Bool) := do
    let _ ← World.openStore (ν := Bool) none
    Client.create (.enabled 0 (some .finalized)) (some .standard)
  ⟨(create (World.start turned (.still 0))).2, [turningReader]⟩

theorem turning_keeps (turned : Bool) :
    Keeps (turningSession turned).world turningReader (.act (.request (.caller "a") countOfFive)) 0
      (.ofCall (.caller "a") countOfFive.method countOfFive.params)
      (.string (if turned then "0x2" else "0x1")) := by
  have listed : (Caching.enabled 0 (some .finalized)).rule.isCacheable countOfFive.method = true :=
    registered_cacheable 0 (some .finalized) _ (by decide)
  exact Keeps.request (.caller "a") countOfFive 0 (.success (.string (if turned then "0x2" else "0x1")))
    _ { (turningSession turned).world with outside := true } rfl listed rfl
    (by cases turned <;> rfl) rfl rfl nofun listed (by cases turned <;> rfl)

-- Block 5 is not final when it is counted, so that it can still be replaced, and final when the
-- finalized block is read, so that the old count is stored.
theorem replaced_response_stored :
    let before := turningSession false
    let after := (before.step 0 (.act (.request (.caller "a") countOfFive))).2
    Finalizing turningReader.node turns (fun turned => if turned then 5 else 4) ∧
    turningReader.client.stack.items = [] ∧
    (before.world.caching turningReader).rule.threshold = some .finalized ∧
    ByNumber countOfFive 5 ∧
    (after.world.stores.read 0).items =
      [(Fingerprint.ofCall (.caller "a") countOfFive.method countOfFive.params,
        Json.string "0x1")] ∧
    ∀ next, Later turns after.world.outside next →
      turningReader.node.answer countOfFive next = .ok (.string "0x2") := by
  intro before after
  have keeps := turning_keeps false
  refine ⟨turning_finalizing, rfl, rfl, count_of_five, ?_, ?_⟩
  · have queued : Queued none (before.world.stores.read 0) :=
      ⟨Store.empty_matched none, Store.empty_fits none, rfl⟩
    obtain ⟨dropped, kept, items, left, _⟩ := insert_last none _ _ (Json.string "0x1") queued
      (keeps_missed _ _ _ _ _ _ keeps)
    obtain ⟨_, rfl⟩ := List.nil_eq_append_iff.mp items
    rw [step_keeping before 0 turningReader _ 0 _ _ rfl keeps]
    exact left
  · intro next later
    obtain ⟨_, _, _, _, _, _, rest⟩ := turningReader.kept_between turns _ turning_finalizing
      before.world (.caller "a") countOfFive 5 0 _ _ rfl rfl count_of_five keeps
    rw [step_request before 0 turningReader (.caller "a") countOfFive rfl] at later
    rw [turned_later next (rest.trans later)]
    rfl

theorem stored_by_number_turned :
    Keeps (turningSession true).world turningReader (.act (.request (.caller "a") countOfFive)) 0
      (.ofCall (.caller "a") countOfFive.method countOfFive.params) (.string "0x2") ∧
    ∀ next, Later turns true next →
      turningReader.node.answer countOfFive next = .ok (.string "0x2") := by
  have keeps := turning_keeps true
  refine ⟨keeps, ?_⟩
  intro next later
  obtain ⟨asked, _, earlier, _, _, _, _, _, lasting⟩ := stored_by_number turns _ (turningSession true)
    0 turningReader (.caller "a") countOfFive 5 0 _ _ turning_finalizing rfl rfl rfl count_of_five keeps
  obtain rfl := turned_later asked earlier
  exact lasting (by decide) next later

end RequestLayer
