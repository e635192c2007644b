import RequestLayer.Proofs.Layers.BlockFields
import RequestLayer.Proofs.Session.Passages
import RequestLayer.Proofs.Session.Survival
import RequestLayer.Proofs.Stack.Edits

set_option autoImplicit false

namespace RequestLayer

variable {ν : Type}

structure Member.Renames (member : Member ν) : Prop where
  named : Layer.authority ∈ member.client.stack.items
  passes : ∀ layer ∈ member.client.stack.items, layer.PassesReplies

structure Thickened (thin thick : Member ν) : Prop where
  node : thick.node = thin.node
  id : thick.client.id = thin.client.id
  retry : thick.client.retry = thin.client.retry
  layers : Thicker thin.client.stack.items thick.client.stack.items

namespace Member

variable (member : Member ν)

def Fetches (call : Call) (world : World ν) (outcome : Except Fault Json) : Prop :=
  ∃ reply, Authority.Comes call.method (member.answered call world).1 reply ∧
    outcome = reply.bind Reply.outcome

section Passing

variable (renames : member.Renames)

include renames

theorem shown_renamed (method : String) (answer : Reply) :
    member.shown Layer.change method answer = Authority.reply method answer :=
  (changed_renamed _ method answer).1 renames.named

theorem returning : ∀ layer ∈ member.client.stack.items,
    (layer.hooks : Hooks (StateM (World ν))).Returns layer.change :=
  fun layer inside => layer.returns (renames.passes layer inside)

theorem passed_renamed (call : Call) (before : World ν) :
    (member.passed call before).1 =
      (member.answered call before).1.map (Authority.reply call.method) := by
  rw [member.passed_outcome Layer.change (member.returning renames)]
  congr 1
  funext answer
  exact member.shown_renamed renames call.method answer

theorem passed_batch_renamed (calls : List Call) (before : World ν) :
    (member.passedBatch calls before).1 =
      (member.answeredAll calls before).1.map fun answers =>
        (calls.zip answers).map fun (call, answer) => Authority.reply call.method answer := by
  rw [member.passed_batch_outcome Layer.change (member.returning renames)]
  simp only [member.shown_renamed renames]

theorem passed_comes (call : Call) (before : World ν) :
    Authority.Comes call.method (member.answered call before).1 (member.passed call before).1 := by
  rw [member.passed_renamed renames]
  exact Authority.reply_comes call.method _

theorem resolved_fetches (call : Call) (before : World ν) :
    member.Fetches call before (member.resolved call before).1 :=
  ⟨(member.passed call before).1, member.passed_comes renames call before, rfl⟩

theorem passed_batch_comes (calls : List Call) (before : World ν) :
    (∀ answers, (member.answeredAll calls before).1 = .ok answers →
      ∃ replies, (member.passedBatch calls before).1 = .ok replies ∧
        (member.requestBatch calls before).1 = .ok (replies.map Reply.outcome) ∧
        Authority.ShownAll calls answers replies) ∧
    ∀ fault, (member.answeredAll calls before).1 = .error fault →
      (member.passedBatch calls before).1 = .error fault ∧
      (member.requestBatch calls before).1 = .error fault := by
  have passed := member.passed_batch_renamed renames calls before
  have given := member.request_batch_outcome calls before
  rw [passed] at given
  constructor
  · intro answers answered
    have counted : answers.length = calls.length := by
      obtain ⟨_, _, _, _, counted⟩ :=
        member.answered_all_way calls before _ answers (Prod.ext answered rfl)
      exact counted
    rw [answered] at passed given
    exact ⟨_, passed, given, Authority.replies_shown calls answers counted⟩
  · intro fault failed
    rw [failed] at passed given
    exact ⟨passed, given⟩

end Passing

section Requests

variable (context : Context) (call : Call) (before : World ν)

def Finds (store : Nat) (response : Json) : Prop :=
  Uses before member store call ∧
    (before.stores.read store).get? (.ofCall context call.method call.params) = some response

theorem finds_answered (store : Nat) (response : Json)
    (finds : member.Finds context call before store response) :
    member.request context call before = (.ok response, before) :=
  member.request_found context call before store finds.1.installed finds.1.listed response finds.2

theorem finished_outcome (store : Nat) (fingerprint : Fingerprint)
    (reached : Except Fault Json × World ν) :
    (member.finished store fingerprint call reached).1 = reached.1 := by
  obtain ⟨outcome, later⟩ := reached
  cases outcome <;> rfl

section Missing

variable (missing : ∀ store response, ¬ member.Finds context call before store response)

include missing

theorem missing_get (store : Nat) (uses : Uses before member store call) :
    (before.stores.read store).get? (.ofCall context call.method call.params) = none :=
  Option.eq_none_iff_forall_ne_some.mpr fun response held => missing store response ⟨uses, held⟩

theorem missing_outcome :
    (member.request context call before).1 = (member.resolved call before).1 := by
  rcases member.looks_up_or_not context call before with apart | ⟨store, installed, listed⟩
  · rw [member.request_apart context call before apart]
  · have missed := member.missing_get context call before missing store ⟨installed, listed⟩
    rw [member.request_missed context call before store installed listed missed, finished_outcome]

theorem missing_stores (store : Nat) (result : Json) (uses : Uses before member store call)
    (given : (member.request context call before).1 = .ok result) :
    (member.request context call before).2.stores.read store =
      if (member.allows (before.caching member).rule call result (member.passed call before).2).1 then
        ((before.stores.read store).insert (.ofCall context call.method call.params) result).1
      else before.stores.read store := by
  have untouched := member.passed_untouched call before
  -- The outcome of the request is that of the call itself, so the reply came in the world it left.
  rw [member.missing_outcome context call before missing] at given
  have missed := member.missing_get context call before missing store uses
  have reached : member.resolved call before = (.ok result, (member.passed call before).2) :=
    Prod.ext given rfl
  rw [member.request_missed context call before store uses.installed uses.listed missed, reached]
  have same := untouched_caching member before _ untouched
  have judged := untouched.trans _ _ _
    (member.allows_untouched call (member.passed call before).2 (before.caching member).rule result)
  unfold finished
  dsimp only
  rw [same]
  split
  · rw [stored_read, if_pos rfl, judged.stores]
  · rw [judged.stores]

end Missing

theorem request_leaves (store : Nat)
    (apart : Uses before member store call →
      ∃ fault, (member.request context call before).1 = .error fault) :
    (member.request context call before).2.stores.read store = before.stores.read store := by
  obtain ⟨outcome, after, run, requested⟩ := request_requested before member context call
  rw [run] at apart ⊢
  cases requested with
  | found store response installed listed held => rfl
  | unstored after untouched =>
      exact congrArg (fun stores : Slots ResponseStore => stores.read store) untouched.stores
  | stored own result judged keeps resolved untouched =>
      have other : store ≠ own := by
        rintro rfl
        cases keeps with
        | request _ _ _ _ _ _ installed listed =>
            obtain ⟨fault, failed⟩ := apart ⟨installed, listed⟩
            cases failed
      rw [stored_read, if_neg other, untouched.stores]

end Requests

end Member

section Thickening

variable (thin thick : Member ν) (thickened : Thickened thin thick)

include thickened

theorem thickened_channel :
    (thick.client.channel thick.node : Channel (StateM (World ν))) =
      thin.client.channel thin.node := by
  unfold Client.channel
  rw [thickened.node, thickened.retry]

theorem thickened_caching (world : World ν) : world.caching thick = world.caching thin := by
  unfold World.caching
  rw [thickened.id]

theorem thickened_renames (renames : thin.Renames) : thick.Renames where
  named := (thicker_members _ _ thickened.layers).1 _ renames.named
  passes := by
    intro layer inside
    rcases (thicker_members _ _ thickened.layers).2 layer inside with inside | rfl
    · exact renames.passes layer inside
    · trivial

theorem thickened_answered (call : Call) : thick.answered call = thin.answered call := by
  rw [thick.answered_blocking, thin.answered_blocking, thickened_channel thin thick thickened,
    thicker_outbound _ _ _ thickened.layers]

theorem thickened_answered_all (calls : List Call) :
    thick.answeredAll calls = thin.answeredAll calls := by
  rw [thick.answered_all_blocking, thin.answered_all_blocking,
    thickened_channel thin thick thickened,
    funext (thicker_outbound _ _ _ thickened.layers)]

theorem thickened_finds (context : Context) (call : Call) (before : World ν) (store : Nat)
    (response : Json) :
    thick.Finds context call before store response ↔
      thin.Finds context call before store response := by
  have same := thickened_caching thin thick thickened before
  have uses : Uses before thick store call ↔ Uses before thin store call :=
    ⟨fun uses => ⟨same ▸ uses.installed, same ▸ uses.listed⟩,
      fun uses => ⟨same ▸ uses.installed, same ▸ uses.listed⟩⟩
  unfold Member.Finds
  rw [uses]

section Outcomes

variable (renames : thin.Renames)

include renames

theorem thickened_passed (call : Call) (before : World ν) :
    (thick.passed call before).1 = (thin.passed call before).1 := by
  rw [thick.passed_renamed (thickened_renames thin thick thickened renames),
    thin.passed_renamed renames, thickened_answered thin thick thickened]

theorem thickened_passed_batch (calls : List Call) (before : World ν) :
    (thick.passedBatch calls before).1 = (thin.passedBatch calls before).1 := by
  rw [thick.passed_batch_renamed (thickened_renames thin thick thickened renames),
    thin.passed_batch_renamed renames, thickened_answered_all thin thick thickened]

theorem thickened_batch (calls : List Call) (before : World ν) :
    (thick.requestBatch calls before).1 = (thin.requestBatch calls before).1 := by
  rw [thick.request_batch_outcome, thin.request_batch_outcome,
    thickened_passed_batch thin thick thickened renames]

theorem thickened_request (context : Context) (call : Call) (before : World ν) :
    (thick.request context call before).1 = (thin.request context call before).1 := by
  -- Both clients look in the same place; what the thin one finds there the other one finds too.
  have same := thickened_finds thin thick thickened context call before
  by_cases found : ∃ store response, thin.Finds context call before store response
  · obtain ⟨store, response, finds⟩ := found
    rw [thin.finds_answered context call before store response finds,
      thick.finds_answered context call before store response ((same store response).mpr finds)]
  · push Not at found
    rw [thin.missing_outcome context call before found,
      thick.missing_outcome context call before fun store response finds =>
        found store response ((same store response).mp finds)]
    exact congrArg (Except.bind · Reply.outcome)
      (thickened_passed thin thick thickened renames call before)

end Outcomes

section States

-- What the layers do besides does not depend on the replies, so not even the state shows the others.
variable (renames : thin.Renames) (blind : ∀ layer ∈ thin.client.stack.items, layer.Blind)

include renames blind

theorem thickened_execute (call : Call) :
    Hooks.execute (thick.client.channel thick.node : Channel (StateM (World ν)))
        (thick.client.stack.items.map Layer.hooks) call =
      Hooks.execute (thin.client.channel thin.node) (thin.client.stack.items.map Layer.hooks) call := by
  rw [thickened_channel thin thick thickened]
  rw [Hooks.execute_eq, Hooks.execute_eq, thicker_outbound _ _ _ thickened.layers,
    funext (thicker_inbound _ _ _ thickened.layers
    renames.named renames.passes blind call.method)]

theorem thickened_execute_batch (calls : List Call) :
    Hooks.executeBatch (thick.client.channel thick.node : Channel (StateM (World ν)))
        (thick.client.stack.items.map Layer.hooks) calls =
      Hooks.executeBatch (thin.client.channel thin.node)
        (thin.client.stack.items.map Layer.hooks) calls := by
  rw [thickened_channel thin thick thickened]
  rw [Hooks.execute_batch_eq, Hooks.execute_batch_eq,
    funext (thicker_outbound _ _ _ thickened.layers)]
  simp only [thicker_inbound _ _ _ thickened.layers renames.named renames.passes blind]

theorem thickened_same_request (context : Context) (call : Call) :
    thick.request context call = thin.request context call := by
  rw [thick.request_blocking, thin.request_blocking]
  simp only [Client.request_eq, Client.resolve_eq]
  unfold Client.caching
  rw [thickened_execute thin thick thickened renames blind, thickened.id,
    thickened_channel thin thick thickened]

theorem thickened_same_batch (calls : List Call) :
    thick.requestBatch calls = thin.requestBatch calls := by
  rw [thick.request_batch_blocking, thin.request_batch_blocking, Client.request_batch_eq,
    Client.request_batch_eq, thickened_execute_batch thin thick thickened renames blind]

end States

end Thickening

theorem added_thicker (stack more : Stack (Layer ν)) (name : String) (position : Nat)
    (added : (Stack.inject name .authority position).run stack = (.ok (), more) ∨
      (Stack.add name .authority).run stack = (.ok (), more)) :
    Thicker stack.items more.items := by
  have placed (outer inner : List (Named (Layer ν))) :
      Thicker (Stack.mk (outer ++ inner)).items
        (Stack.mk (outer ++ ⟨name, .authority⟩ :: inner)).items := by
    unfold Stack.items
    rw [List.map_append, List.map_append]
    exact thicker_inserted _ _
  rw [Stack.inject_run, Stack.add_run] at added
  by_cases taken : stack.has name = true
  · rw [if_pos taken, if_pos taken] at added
    rcases added with added | added <;> cases added
  · rw [if_neg taken, if_neg taken] at added
    rcases added with added | added
    · obtain ⟨outer, inner, split, _, done⟩ :=
        Stack.insert_split ⟨name, Layer.authority⟩ stack position
      rw [done] at added
      obtain rfl : stack = ⟨outer ++ inner⟩ := congrArg Stack.mk split
      cases added
      exact placed outer inner
    · cases added
      simpa only [List.append_nil] using placed stack.layers []

section Serving

-- A program in which all clients that use a store rename blocks, with the moves it has made. Besides,
-- entries may leave the store, and all else may change.
inductive Serving (store : Nat) : List (Session ν × Nat × Move ν) → Session ν → Prop where
  | start (session : Session ν) (capacity : Option Capacity)
      (empty : session.world.stores.read store = .empty capacity) : Serving store [] session
  | step (past : List (Session ν × Nat × Move ν)) (session : Session ν)
      (serving : Serving store past session) (index : Nat) (move : Move ν)
      (renames : ∀ member ∈ session.members,
        (session.world.caching member).store = some store → member.Renames) :
      Serving store (past ++ [(session, index, move)]) (session.step index move).2
  | elsewhere (past : List (Session ν × Nat × Move ν)) (session other : Session ν)
      (serving : Serving store past session)
      (kept : ∀ fingerprint response,
        (other.world.stores.read store).get? fingerprint = some response →
          (session.world.stores.read store).get? fingerprint = some response) :
      Serving store past other

-- The response is what one of the moves got of the node, with its block renamed.
inductive Fetched (store : Nat) (past : List (Session ν × Nat × Move ν)) :
    Fingerprint → Json → Prop where
  | request (session : Session ν) (index : Nat) (member : Member ν) (context : Context) (call : Call)
      (response : Json) (made : (session, index, .act (.request context call)) ∈ past)
      (named : session.members[index]? = some member)
      (keeps : Keeps session.world member (.act (.request context call)) store
        (.ofCall context call.method call.params) response)
      (fetches : member.Fetches call session.world (.ok response)) :
      Fetched store past (.ofCall context call.method call.params) response

theorem fetched_later (store : Nat) (past later : List (Session ν × Nat × Move ν))
    (fingerprint : Fingerprint) (response : Json)
    (fetched : Fetched store past fingerprint response) :
    Fetched store (past ++ later) fingerprint response := by
  cases fetched with
  | request session index member context call response made named keeps fetches =>
      exact .request session index member context call _ (List.mem_append_left later made) named keeps
        fetches

theorem keeps_fetched (store : Nat) (past : List (Session ν × Nat × Move ν)) (session : Session ν)
    (index : Nat) (member : Member ν) (move : Move ν) (fingerprint : Fingerprint) (response : Json)
    (named : session.members[index]? = some member) (renames : member.Renames)
    (keeps : Keeps session.world member move store fingerprint response) :
    Fetched store (past ++ [(session, index, move)]) fingerprint response := by
  have known := keeps
  cases keeps with
  | request context call _ reply _ later _ _ _ passed sound given =>
      have fetches := member.resolved_fetches renames call session.world
      rw [(passed_resolved member call session.world later reply response passed sound given).2]
        at fetches
      exact .request session index member context call response
        (List.mem_append_right past List.mem_cons_self) named known fetches

theorem step_fetched (store : Nat) (past : List (Session ν × Nat × Move ν)) (session : Session ν)
    (index : Nat) (move : Move ν)
    (renames : ∀ member ∈ session.members,
      (session.world.caching member).store = some store → member.Renames)
    (held : ∀ fingerprint response,
      (session.world.stores.read store).get? fingerprint = some response →
        Fetched store past fingerprint response)
    (fingerprint : Fingerprint) (response : Json)
    (found : ((session.step index move).2.world.stores.read store).get? fingerprint =
      some response) :
    Fetched store (past ++ [(session, index, move)]) fingerprint response := by
  by_cases keeping : ∃ member stored value, session.members[index]? = some member ∧
      Keeps session.world member move store stored value
  · obtain ⟨member, stored, value, named, keeps⟩ := keeping
    rw [step_keeping session index member move store stored value named keeps] at found
    -- What is found was stored by this move or was there before it.
    rcases Store.get_insert _ _ _ _ _ found with ⟨rfl, rfl⟩ | ⟨_, older⟩
    · have installed := keeps_installed session.world member move store _ _ keeps
      exact keeps_fetched store past session index member move _ _ named
        (renames member (List.mem_of_getElem? named) installed) keeps
    · exact fetched_later store past _ fingerprint response (held fingerprint response older)
  · rw [step_leaving session index move store fun member stored value named keeps =>
      keeping ⟨member, stored, value, named, keeps⟩] at found
    exact fetched_later store past _ fingerprint response (held fingerprint response found)

theorem serving_fetched (store : Nat) (past : List (Session ν × Nat × Move ν)) (session : Session ν)
    (serving : Serving store past session) (fingerprint : Fingerprint) (response : Json)
    (found : (session.world.stores.read store).get? fingerprint = some response) :
    Fetched store past fingerprint response := by
  induction serving generalizing fingerprint response with
  | start session capacity empty =>
      rw [empty] at found
      cases found
  | step past session _ index move renames ih =>
      exact step_fetched store past session index move renames ih fingerprint response found
  | elsewhere past session other _ kept ih => exact ih _ _ (kept fingerprint response found)

end Serving

-- In this order: a call, a batch, a request with or without a stored response, what the rule sees of a
-- reply, where stored responses come from, and further renaming layers.
theorem blocks_renamed (member : Member ν) (renames : member.Renames) :
    (∀ call before,
      Authority.Comes call.method (member.answered call before).1 (member.passed call before).1) ∧
    (∀ calls before,
      (∀ answers, (member.answeredAll calls before).1 = .ok answers →
        ∃ replies, (member.passedBatch calls before).1 = .ok replies ∧
          (member.requestBatch calls before).1 = .ok (replies.map Reply.outcome) ∧
          Authority.ShownAll calls answers replies) ∧
      ∀ fault, (member.answeredAll calls before).1 = .error fault →
        (member.passedBatch calls before).1 = .error fault ∧
        (member.requestBatch calls before).1 = .error fault) ∧
    (∀ context call before,
      (∀ store response, member.Finds context call before store response →
        member.request context call before = (.ok response, before)) ∧
      ((∀ store response, ¬ member.Finds context call before store response) →
        member.Fetches call before (member.request context call before).1 ∧
        ∀ store result, Uses before member store call →
          (member.request context call before).1 = .ok result →
            (member.request context call before).2.stores.read store =
              if (member.allows (before.caching member).rule call result
                  (member.passed call before).2).1 then
                ((before.stores.read store).insert
                  (.ofCall context call.method call.params) result).1
              else before.stores.read store) ∧
      ∀ store, (Uses before member store call →
          ∃ fault, (member.request context call before).1 = .error fault) →
        (member.request context call before).2.stores.read store = before.stores.read store) ∧
    (∀ (rule : Freshness.Rule) call answer reply, Authority.Shown call.method answer reply →
      rule.verdict call reply.result = rule.verdict call answer.result) ∧
    (∀ store past session, Serving store past session →
      ∀ context call response, member.Finds context call session.world store response →
        Fetched store past (.ofCall context call.method call.params) response) ∧
    (∀ name position more,
      (Stack.inject name .authority position).run member.client.stack = (.ok (), more) ∨
        (Stack.add name .authority).run member.client.stack = (.ok (), more) →
      Thickened member { member with client := { member.client with stack := more } }) ∧
    ∀ thick, Thickened member thick → thick.Renames ∧
      (∀ call before, (thick.passed call before).1 = (member.passed call before).1) ∧
      (∀ calls before, (thick.passedBatch calls before).1 = (member.passedBatch calls before).1 ∧
        (thick.requestBatch calls before).1 = (member.requestBatch calls before).1) ∧
      (∀ context call before,
        (thick.request context call before).1 = (member.request context call before).1) ∧
      ((∀ layer ∈ member.client.stack.items, layer.Blind) →
        thick.requestBatch = member.requestBatch ∧ thick.request = member.request) := by
  refine ⟨member.passed_comes renames, member.passed_batch_comes renames, ?_, ?_, ?_, ?_, ?_⟩
  · intro context call before
    refine ⟨member.finds_answered context call before, fun missing => ⟨?_, ?_⟩,
      member.request_leaves context call before⟩
    · rw [member.missing_outcome context call before missing]
      exact member.resolved_fetches renames call before
    · exact member.missing_stores context call before missing
  · exact fun rule call => Authority.shown_verdict rule call call.method
  · intro store past session serving context call response finds
    exact serving_fetched store past session serving _ response finds.2
  · intro name position more added
    exact ⟨rfl, rfl, rfl, added_thicker member.client.stack more name position added⟩
  · intro thick thickened
    refine ⟨thickened_renames member thick thickened renames,
      thickened_passed member thick thickened renames, fun calls before => ⟨?_, ?_⟩,
      thickened_request member thick thickened renames, fun blind => ⟨?_, ?_⟩⟩
    · exact thickened_passed_batch member thick thickened renames calls before
    · exact thickened_batch member thick thickened renames calls before
    · exact funext (thickened_same_batch member thick thickened renames blind)
    · funext context call
      exact thickened_same_request member thick thickened renames blind context call

def signing : Node Nat where
  send _ count := (.ok (.success (.object
    [("extraData", .string "0xaa"), ("number", .string "0x1"),
      ("proofOfAuthorityData", .string "0x")])), count + 1)
  sendBatch calls count := (.ok (calls.map fun _ => .success .null), count + 1)

def signer : Member Nat :=
  ⟨.suspendable, signing,
    ⟨1, none, ⟨[⟨"count", .functions (some fun call count => (.ok call.params, count + 1)) none⟩,
      ⟨"authority", .authority⟩]⟩⟩⟩

def signingSession : Session Nat :=
  let create : StateM (World Nat) (Client Nat) := do
    let _ ← World.openStore (ν := Nat) none
    Client.create (.enabled 0 none) none
  ⟨(create (World.start 0 (.still 0))).2, [signer]⟩

def firstBlock : Call := ⟨"eth_getBlockByNumber", [.string "0x1"]⟩

def firstBlockShown : Json :=
  .object [("number", .string "0x1"), ("proofOfAuthorityData", .string "0xaa")]

theorem signer_renames : signer.Renames := by
  refine ⟨by simp [signer, Stack.items], fun layer inside => ?_⟩
  simp only [signer, Stack.items, List.map_cons, List.map_nil, List.mem_cons, List.not_mem_nil,
    or_false] at inside
  rcases inside with rfl | rfl <;> trivial

theorem first_block_listed :
    (Caching.enabled 0 none).rule.isCacheable firstBlock.method = true :=
  registered_cacheable 0 none _ (by decide)

theorem first_block_passed : signer.passed firstBlock signingSession.world =
    (.ok (.success firstBlockShown), { signingSession.world with outside := 2 }) := by
  rw [Member.passed_blocking]
  rfl

theorem first_block_keeps : Keeps signingSession.world signer
    (.act (.request (.caller "a") firstBlock)) 0
    (.ofCall (.caller "a") firstBlock.method firstBlock.params) firstBlockShown := by
  refine .request (.caller "a") firstBlock 0 (.success firstBlockShown) firstBlockShown
    { signingSession.world with outside := 2 } rfl first_block_listed rfl first_block_passed rfl rfl
    nofun first_block_listed ?_
  rw [Member.allows_blocking]
  rfl

theorem first_block_found : signer.Finds (.caller "a") firstBlock
    (signingSession.step 0 (.act (.request (.caller "a") firstBlock))).2.world 0 firstBlockShown := by
  have same := keeping_caching signingSession 0 signer signer _ 0 _ _ rfl first_block_keeps
  refine ⟨⟨?_, ?_⟩, ?_⟩
  · rw [same]
    rfl
  · rw [same]
    exact first_block_listed
  · rw [step_keeping signingSession 0 signer _ 0 _ _ rfl first_block_keeps,
      Store.get_insert_unbounded _ _ _ _ rfl, if_pos rfl]

-- The first request stores the renamed block and the second one finds it. A second renaming layer
-- outside the others changes nothing.
theorem blocks_renamed_signed :
    let move : Move Nat := .act (.request (.caller "a") firstBlock)
    let after := (signingSession.step 0 move).2.world
    let more : Stack (Layer Nat) := ⟨⟨"signers", .authority⟩ :: signer.client.stack.layers⟩
    let thick : Member Nat := { signer with client := { signer.client with stack := more } }
    signer.request (.caller "a") firstBlock after = (.ok firstBlockShown, after) ∧
    Fetched 0 [(signingSession, 0, move)]
      (.ofCall (.caller "a") firstBlock.method firstBlock.params) firstBlockShown ∧
    thick.request = signer.request := by
  intro move after more thick
  obtain ⟨_, _, requests, _, served, added, further⟩ := blocks_renamed signer signer_renames
  have serving : Serving 0 [(signingSession, 0, move)] (signingSession.step 0 move).2 := by
    refine .step [] signingSession (.start signingSession none rfl) 0 move fun member inside _ => ?_
    rw [List.mem_singleton.mp inside]
    exact signer_renames
  have blind : ∀ layer ∈ signer.client.stack.items, layer.Blind := by
    intro layer inside
    simp only [signer, Stack.items, List.map_cons, List.map_nil, List.mem_cons, List.not_mem_nil,
      or_false] at inside
    rcases inside with rfl | rfl <;> trivial
  refine ⟨(requests (.caller "a") firstBlock after).1 0 firstBlockShown first_block_found,
    served 0 _ _ serving (.caller "a") firstBlock firstBlockShown first_block_found, ?_⟩
  exact ((further thick (added "signers" 0 more (.inl rfl))).2.2.2.2 blind).2

end RequestLayer
