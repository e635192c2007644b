import RequestLayer.Proofs.Session.Finality

set_option autoImplicit false

namespace RequestLayer

variable {ν : Type}

def Node.Still (node : Node ν) (answer : Call → Except Fault Reply) : Prop :=
  ∀ call state, (node.send call state).1 = answer call

-- Parameters that start with `earliest` or with a number that is not above the threshold's block.
def Settled (answer : Call → Except Fault Reply) (threshold : Freshness.Threshold)
    (params : Params) : Prop :=
  params.head? = some (.string "earliest") ∨
    ∃ number limit, Freshness.Names params (.number number) ∧
      Freshness.Finds (answer (.header threshold.tag)) limit ∧ number ≤ limit

theorem settled_by_first (answer : Call → Except Fault Reply) (threshold : Freshness.Threshold)
    (params other : Params) (same : other.head? = params.head?)
    (settled : Settled answer threshold params) : Settled answer threshold other := by
  simpa only [Settled, Freshness.Names, same] using settled

theorem bind_came_back {σ α β : Type} (first : ExceptT Fault (StateM σ) α)
    (next : α → ExceptT Fault (StateM σ) β) (state last : σ) (result : β)
    (ended : (first >>= next).run state = (.ok result, last)) :
    ∃ value between, first.run state = (.ok value, between) ∧
      (next value).run between = (.ok result, last) := by
  change (match first.run state with
    | (outcome, between) => (ExceptT.bindCont next outcome : StateM σ _) between) = _ at ended
  cases ran : first.run state with
  | mk outcome between =>
      rw [ran] at ended
      cases outcome with
      | error fault => cases ended
      | ok value => exact ⟨value, between, rfl, ended⟩

namespace Member

variable (member : Member ν)

def outgoing (call : Call) : StateM (World ν) (Except Fault Call) :=
  member.mode.run fun _ _ _ _ =>
    (Hooks.outbound (member.client.channel member.node)
      (member.client.stack.items.map Layer.hooks) call).run

def incoming (method : String) (reply : Reply) : StateM (World ν) (Except Fault Reply) :=
  member.mode.run fun _ _ _ _ =>
    (Hooks.inbound (member.client.channel member.node)
      (member.client.stack.items.map Layer.hooks) method reply).run

theorem outgoing_blocking (call : Call) :
    member.outgoing call =
      (Hooks.outbound (member.client.channel member.node)
        (member.client.stack.items.map Layer.hooks) call).run :=
  run_alike _ _ ((layers_run_as member.client.stack.items).outbound _ _
    (client_channel_runs_as member.client member.node) call)

theorem incoming_blocking (method : String) (reply : Reply) :
    member.incoming method reply =
      (Hooks.inbound (member.client.channel member.node)
        (member.client.stack.items.map Layer.hooks) method reply).run :=
  run_alike _ _ ((layers_run_as member.client.stack.items).inbound _ _
    (client_channel_runs_as member.client member.node) method reply)

variable (answer : Call → Except Fault Reply) (still : member.node.Still answer)

include still

theorem sent_answered (call : Call) (world : World ν) :
    (((member.client.channel member.node : Channel (StateM (World ν))).send call).run world).1 =
      answer call := by
  obtain ⟨asked, _, outcome, _⟩ := client_channel_asks member.node (fun _ _ => True)
    (fun _ _ => .single trivial) member.client call world
  exact outcome.trans (still call asked)

theorem passed_way (call : Call) (before later : World ν) (reply : Reply)
    (passed : member.passed call before = (.ok reply, later)) :
    ∃ sent between back asked, member.outgoing call before = (.ok sent, between) ∧
      answer sent = .ok back ∧ member.incoming call.method back asked = (.ok reply, later) := by
  rw [passed_blocking] at passed
  obtain ⟨sent, between, out, rest⟩ := bind_came_back _ _ before later reply passed
  obtain ⟨back, asked, replied, home⟩ := bind_came_back _ _ between later reply rest
  have answered := member.sent_answered answer still sent between
  rw [replied] at answered
  rw [outgoing_blocking]
  refine ⟨sent, between, back, asked, out, answered.symm, ?_⟩
  rw [incoming_blocking]
  exact home

theorem header_number_still (call : Call) (world : World ν) :
    (Freshness.Rule.headerNumber?
      (member.client.channel member.node : Channel (StateM (World ν))) call world).1 =
        Freshness.blockNumber? (answer call) :=
  congrArg Freshness.blockNumber? (member.sent_answered answer still call world)

theorem allows_number_still (rule : Freshness.Rule) (threshold : Freshness.Threshold) (call : Call)
    (number : Nat) (result : Json) (world : World ν)
    (depends : rule.verdict call (some result) = .depends threshold (.number number)) :
    (member.allows rule call result world).1 = true ↔
      ∃ limit, Freshness.Finds (answer (.header threshold.tag)) limit ∧ number ≤ limit := by
  rw [allows_blocking]
  have limit := member.header_number_still answer still (.header threshold.tag) world
  cases found : Freshness.Rule.headerNumber? (member.client.channel member.node :
      Channel (StateM (World ν))) (.header threshold.tag) world with
  | mk limit? after =>
      rw [allows_number_run rule _ call (some result) threshold number limit? world after depends
        found]
      rw [found] at limit
      cases limit? with
      | none =>
          refine ⟨nofun, ?_⟩
          rintro ⟨other, finds, _⟩
          rw [← Freshness.block_number_iff, ← limit] at finds
          cases finds
      | some block =>
          have finds := (Freshness.block_number_iff _ block).mp limit.symm
          constructor
          · intro within
            exact ⟨block, finds, of_decide_eq_true within⟩
          · rintro ⟨other, otherFinds, within⟩
            rw [← Freshness.block_number_iff, ← limit] at otherFinds
            cases otherFinds
            exact decide_eq_true within

-- Of the parameters a rule sees those of the call that it is asked about, and no others.
theorem allows_settled (rule : Freshness.Rule) (threshold : Freshness.Threshold) (call : Call)
    (result : Json) (world : World ν) (bound : rule.threshold = some threshold)
    (group : call.method ∈ Freshness.methodsByNumber)
    (listed : rule.isCacheable call.method) (present : result ≠ .null) :
    (member.allows rule call result world).1 = true ↔ Settled answer threshold call.params := by
  have pending : Freshness.Pending rule call.method (some result) threshold result :=
    ⟨List.contains_iff_mem.mp listed, rfl, present, bound⟩
  have verdict := Freshness.verdict_by_number rule call _ threshold result pending group
  have settled (allowed : Bool)
      (known : rule.verdict call (some result) = .settled allowed) :
      (member.allows rule call result world).1 = allowed := by
    rw [allows_blocking, Freshness.Rule.allows_eq, known]
    rfl
  unfold Settled
  simp only [← Freshness.names_earliest, Freshness.names_iff]
  cases reference : call.params.head?.bind BlockRef.ofJson? with
  | none =>
      rw [settled false (by rw [verdict, reference])]
      simp
  | some block =>
      rw [reference] at verdict
      cases block with
      | number number =>
          rw [member.allows_number_still answer still rule threshold call number result world verdict]
          simp
      | hash hash =>
          rw [settled false verdict]
          simp
      | tag tag =>
          cases tag with
          | earliest =>
              rw [settled true verdict]
              simp
          | _ =>
              rw [settled false verdict]
              simp

theorem later_settled (before later : World ν) (call : Call) (threshold : Freshness.Threshold)
    (reply : Reply) (result : Json)
    (bound : (before.caching member).rule.threshold = some threshold)
    (group : call.method ∈ Freshness.methodsByNumber)
    (listed : (before.caching member).rule.isCacheable call.method)
    (passed : member.passed call before = (.ok reply, later)) (present : result ≠ .null) :
    later.caching member = before.caching member ∧
      ((member.allows (later.caching member).rule call result later).1 = true ↔
        Settled answer threshold call.params) := by
  have same : later.caching member = before.caching member := by
    have untouched := member.passed_untouched call before
    rw [passed] at untouched
    exact untouched_caching member before later untouched
  exact ⟨same, member.allows_settled answer still _ threshold call result later (same ▸ bound) group
    (same ▸ listed) present⟩

theorem keeps_settled (before : World ν) (context : Context) (call : Call) (store : Nat)
    (threshold : Freshness.Threshold) (fingerprint : Fingerprint) (result : Json)
    (bound : (before.caching member).rule.threshold = some threshold)
    (group : call.method ∈ Freshness.methodsByNumber)
    (keeps : Keeps before member (.act (.request context call)) store fingerprint result) :
    Settled answer threshold call.params := by
  cases keeps with
  | request _ _ _ reply _ later _ listed _ passed _ _ present _ allowed =>
      exact (member.later_settled answer still before later call threshold reply result bound group
        listed passed present).2.mp allowed

end Member

theorem stored_by_given_params (answer : Call → Except Fault Reply) (session : Session ν)
    (index : Nat) (member : Member ν) (context : Context) (call : Call) (store : Nat)
    (threshold : Freshness.Threshold) (reply : Reply) (result : Json) (later : World ν)
    (still : member.node.Still answer) (named : session.members[index]? = some member)
    (bound : (session.world.caching member).rule.threshold = some threshold)
    (group : call.method ∈ Freshness.methodsByNumber)
    (installed : (session.world.caching member).store = some store)
    (listed : (session.world.caching member).rule.isCacheable call.method)
    (missed : (session.world.stores.read store).get?
      (.ofCall context call.method call.params) = none)
    (passed : member.passed call session.world = (.ok reply, later)) (sound : reply.error = none)
    (given : reply.result = some result) (present : result ≠ .null) :
    let after := (session.step index (.act (.request context call))).2.world.stores.read store
    ∃ sent between back asked,
      member.outgoing call session.world = (.ok sent, between) ∧ answer sent = .ok back ∧
      member.incoming call.method back asked = (.ok reply, later) ∧
      (Settled answer threshold call.params →
        after = ((session.world.stores.read store).insert
          (.ofCall context call.method call.params) result).1) ∧
      (¬ Settled answer threshold call.params → after = session.world.stores.read store) ∧
      (sent.params.head? = call.params.head? →
        (Settled answer threshold sent.params ↔ Settled answer threshold call.params)) := by
  intro after
  obtain ⟨sent, between, back, asked, out, answered, home⟩ :=
    member.passed_way answer still call session.world later reply passed
  refine ⟨sent, between, back, asked, out, answered, home, ?_, ?_, ?_⟩
  · intro settled
    obtain ⟨same, judged⟩ := member.later_settled answer still session.world later call threshold
      reply result bound group listed passed present
    exact step_keeping session index member _ store _ result named
      (.request context call store reply result later installed listed missed passed sound given
        present (same ▸ listed) (judged.mpr settled))
  · intro unsettled
    apply step_leaving session index _ store
    intro other fingerprint value found keeps
    obtain rfl : member = other := Option.some.inj (named.symm.trans found)
    exact unsettled (member.keeps_settled answer still session.world context call store threshold
      fingerprint value bound group keeps)
  · intro same
    exact ⟨settled_by_first answer threshold sent.params call.params same.symm,
      settled_by_first answer threshold call.params sent.params same⟩

def standingAnswer (call : Call) : Except Fault Reply :=
  .ok (.success (match call.params.head?.bind BlockRef.ofJson? with
    | some (.tag .finalized) => .object [("number", .string "0x2")]
    | some (.number _) => .string "0xa"
    | _ => .string "0xb"))

def standing : Node Unit where
  send call state := (standingAnswer call, state)
  sendBatch calls state := (calls.mapM standingAnswer, state)

theorem standing_still : standing.Still standingAnswer := fun _ _ => rfl

def countOfOne : Call := ⟨"eth_getBlockTransactionCountByNumber", [.string "0x1"]⟩

def askingFor (params : Params) : Member Unit :=
  ⟨.suspendable, standing,
    ⟨1, none, ⟨[⟨"rewrite", .functions (some fun _ state => (.ok params, state)) none⟩]⟩⟩⟩

def rewritingSession (params : Params) : Session Unit :=
  let create : StateM (World Unit) (Client Unit) := do
    let _ ← World.openStore (ν := Unit) none
    Client.create (.enabled 0 (some .finalized)) none
  ⟨(create (World.start () (.still 0))).2, [askingFor params]⟩

theorem asking_passed (params : Params) (world : World Unit) :
    (askingFor params).passed countOfOne world =
      (standingAnswer ⟨countOfOne.method, params⟩, world) := by
  rw [Member.passed_blocking]
  rfl

theorem asking_listed :
    (Caching.enabled 0 (some .finalized)).rule.isCacheable countOfOne.method = true :=
  registered_cacheable 0 (some .finalized) _ (by decide)

theorem block_one_settled : Settled standingAnswer .finalized countOfOne.params :=
  .inr ⟨1, 2, ⟨.string "0x1", rfl, by decide⟩, (Freshness.block_number_iff _ 2).mp rfl, by decide⟩

theorem latest_unsettled : ¬ Settled standingAnswer .finalized [.string "latest"] := by
  have reference : BlockRef.ofJson? (.string "latest") = some (.tag .latest) := by decide
  rintro (first | ⟨number, _, ⟨_, first, read⟩, _⟩)
  · simp at first
  · cases first
    rw [reference] at read
    cases read

-- The latest block's count under the key of block 1, where block 2 is final.
theorem rewritten_call_stored :
    let before := rewritingSession [.string "latest"]
    let member := askingFor [.string "latest"]
    let after := (before.step 0 (.act (.request (.caller "a") countOfOne))).2
    member.node.Still standingAnswer ∧
    (before.world.caching member).rule.threshold = some .finalized ∧
    countOfOne.method ∈ Freshness.methodsByNumber ∧
    (before.world.stores.read 0).items = [] ∧
    (after.world.stores.read 0).items =
      [(Fingerprint.ofCall (.caller "a") countOfOne.method countOfOne.params, Json.string "0xb")] ∧
    (member.outgoing countOfOne before.world).1 = .ok ⟨countOfOne.method, [.string "latest"]⟩ ∧
    ¬ Settled standingAnswer .finalized [.string "latest"] := by
  intro before member after
  have allowed := (member.allows_settled standingAnswer standing_still
    (before.world.caching member).rule .finalized countOfOne "0xb" before.world rfl (by decide)
    asking_listed nofun).mpr block_one_settled
  have keeps : Keeps before.world member (.act (.request (.caller "a") countOfOne)) 0
      (.ofCall (.caller "a") countOfOne.method countOfOne.params) "0xb" :=
    .request (.caller "a") countOfOne 0 (.success "0xb") "0xb" before.world rfl asking_listed rfl
      (asking_passed _ _) rfl rfl nofun asking_listed allowed
  refine ⟨standing_still, rfl, by decide, rfl, ?_, rfl, latest_unsettled⟩
  have queued : Queued none (before.world.stores.read 0) :=
    ⟨Store.empty_matched none, Store.empty_fits none, rfl⟩
  obtain ⟨dropped, kept, items, left, _⟩ := insert_last none _ _ (Json.string "0xb") queued
    (keeps_missed _ _ _ _ _ _ keeps)
  obtain ⟨_, rfl⟩ := List.nil_eq_append_iff.mp items
  rw [step_keeping before 0 member _ 0 _ _ rfl keeps]
  exact left

theorem stored_by_given_params_earlier :
    let before := rewritingSession [.string "0x0"]
    ((before.step 0 (.act (.request (.caller "a") countOfOne))).2.world.stores.read 0) =
      ((before.world.stores.read 0).insert
        (.ofCall (.caller "a") countOfOne.method countOfOne.params) "0xa").1 := by
  intro before
  obtain ⟨_, _, _, _, _, _, _, stored, _⟩ := stored_by_given_params standingAnswer before 0
    (askingFor [.string "0x0"]) (.caller "a") countOfOne 0 .finalized (.success "0xa") "0xa"
    before.world standing_still rfl rfl (by decide) rfl asking_listed rfl (asking_passed _ _) rfl rfl
    nofun
  exact stored block_one_settled

end RequestLayer
