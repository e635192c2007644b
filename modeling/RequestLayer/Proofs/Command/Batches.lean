import RequestLayer.Proofs.Command.CallTexts
import RequestLayer.Proofs.Json.Legible
import RequestLayer.Proofs.Session.Passages
import RequestLayer.Proofs.Settings.Construction

set_option autoImplicit false

namespace RequestLayer.Command

variable {ν : Type}

def batchRun (settings : Settings) (node : Node ν) (context : Context) (texts : List String) :
    InBoth ν (Except Chain Json) :=
  fun _ _ _ _ => (perform settings node context (.batch texts)).run

def reported (calls : List Call) : Except Fault (List (Except Fault Json)) → Except Chain Json
  | .ok outcomes => .ok (batchOutput calls outcomes)
  | .error fault => .error [.failed fault]

def sendTexts {m : Type → Type} [Monad m] [MonadStateOf (World ν) m] [Await m] (node : Node ν)
    (texts : List String) : Except Fault (Client ν) → m (Except Chain Json)
  | .error fault => return .error [.failed fault]
  | .ok client =>
      match texts.mapM readCallText with
      | .error chain => return .error chain
      | .ok calls => reported calls <$> (client.requestBatch node calls).run

theorem batch_steps {m : Type → Type} [Monad m] [LawfulMonad m] [MonadStateOf (World ν) m] [Await m]
    (settings : Settings) (node : Node ν) (context : Context) (texts : List String) :
    (perform (m := m) settings node context (.batch texts)).run =
      (settings.client (ν := ν)).run >>= sendTexts node texts := by
  unfold perform
  rw [ExceptT.run_bind]
  change Except.mapError _ <$> _ >>= _ = _
  rw [bind_map_left]
  apply bind_congr
  intro made
  cases made with
  | error fault => rfl
  | ok client =>
      change ExceptT.run (_ >>= _) = _
      rw [ExceptT.run_bind, ExceptT.run_mk, pure_bind]
      unfold sendTexts
      cases texts.mapM readCallText with
      | error chain => rfl
      | ok calls =>
          change ExceptT.run (_ >>= _) = reported calls <$> _
          rw [ExceptT.run_bind]
          change Except.mapError _ <$> _ >>= _ = _
          rw [bind_map_left, ← bind_pure_comp]
          apply bind_congr
          intro outcome
          cases outcome <;> rfl

theorem batch_run (mode : Mode) (settings : Settings) (node : Node ν) (context : Context)
    (texts : List String) (world : World ν) :
    mode.run (batchRun settings node context texts) world =
      mode.run (fun _ _ _ _ => sendTexts node texts (mode.run settings.made world).1)
        (mode.run settings.made world).2 := by
  cases mode with
  | blocking =>
      have steps := batch_steps (m := StateM (World ν)) settings node context texts
      exact congrFun steps world
  | suspendable =>
      have steps := batch_steps (m := Routine (World ν)) settings node context texts
      have ran := congrArg Routine.run steps
      rw [Routine.run_bind] at ran
      exact congrFun ran world

section Runs

variable (mode : Mode) (settings : Settings) (node : Node ν) (context : Context)
  (texts : List String) (world ready : World ν) (client : Client ν)

theorem batch_unmade (fault : Fault) (made : mode.run settings.made world = (.error fault, ready)) :
    mode.run (batchRun settings node context texts) world = (.error [.failed fault], ready) := by
  rw [batch_run, made]
  cases mode <;> rfl

theorem batch_rejected (chain : Chain) (made : mode.run settings.made world = (.ok client, ready))
    (rejected : texts.mapM readCallText = .error chain) :
    mode.run (batchRun settings node context texts) world = (.error chain, ready) := by
  rw [batch_run, made]
  unfold sendTexts
  simp only [rejected]
  cases mode <;> rfl

theorem batch_sent (member : Member ν) (calls : List Call)
    (made : member.mode.run settings.made world = (.ok member.client, ready))
    (read : texts.mapM readCallText = .ok calls) :
    member.mode.run (batchRun settings member.node context texts) world =
      (reported calls (member.requestBatch calls ready).1, (member.requestBatch calls ready).2) := by
  obtain ⟨mode, node, client⟩ := member
  rw [batch_run, made]
  unfold sendTexts
  simp only [read]
  cases mode with
  | blocking => rfl
  | suspendable =>
      change (reported calls <$> _ : Routine _ _).run ready = _
      rw [← bind_pure_comp, Routine.run_bind]
      rfl

section Texts

theorem texts_read_iff (calls : List Call) :
    texts.mapM readCallText = .ok calls ↔ List.Forall₂ CallText texts calls := by
  induction texts generalizing calls with
  | nil =>
      rw [List.forall₂_nil_left_iff]
      exact ⟨fun same => (Except.ok.inj same).symm, fun same => same ▸ rfl⟩
  | cons text rest ih =>
      rw [map_cons_ok, List.forall₂_cons_left_iff]
      simp only [read_call_iff, ih]

theorem texts_named (calls : List Call) (named : List.Forall₂ CallText texts calls) :
    ∀ text ∈ texts, ∃ call, CallText text call := by
  induction named with
  | nil => exact nofun
  | cons names _ ih => exact List.forall_mem_cons.mpr ⟨⟨_, names⟩, ih⟩

def Rejected (texts : List String) : Prop := ∃ text ∈ texts, ∀ call, ¬ CallText text call

theorem rejected_fails (rejected : Rejected texts) :
    ∃ chain, texts.mapM readCallText = .error chain := by
  cases read : texts.mapM readCallText with
  | error chain => exact ⟨chain, rfl⟩
  | ok calls =>
      obtain ⟨text, member, none⟩ := rejected
      obtain ⟨call, names⟩ := texts_named texts calls ((texts_read_iff texts calls).mp read) text member
      exact absurd names (none call)

end Texts

-- The item names the method and shows the result or the text of the error, and nothing else.
structure Shows (method : String) (outcome : Except Fault Json) (item : Json) : Prop where
  method : item.field? "method" = some (.string method)
  result : item.field? "result" = outcome.toOption
  error : item.field? "error" = match outcome with
    | .ok _ => none
    | .error fault => some (.string fault.message)
  others : ∀ key, key ∉ ["method", "result", "error"] → item.field? key = none

theorem item_shows (call : Call) (outcome : Except Fault Json) :
    Shows call.method outcome (batchItem call outcome) := by
  have absent (key : String) (other : key ∉ ["method", "result", "error"]) :
      (batchItem call outcome).field? key = none := by
    simp only [List.mem_cons, List.not_mem_nil, or_false, not_or] at other
    cases outcome with
    | ok result => exact List.lookup_eq_none_iff.mpr (by simp [other])
    | error fault => exact List.lookup_eq_none_iff.mpr (by simp [other])
  cases outcome with
  | ok result => exact ⟨rfl, rfl, rfl, absent⟩
  | error fault => exact ⟨rfl, rfl, rfl, absent⟩

-- One item for each call, in order, which shows the outcome of the answer at the same place.
structure Aligned (calls : List Call) (answers : List Reply) (items : List Json) : Prop where
  answered : answers.length = calls.length
  counted : items.length = calls.length
  each : ∀ (index : Nat) (call : Call) (answer : Reply), calls[index]? = some call →
    answers[index]? = some answer →
      ∃ item, items[index]? = some item ∧ Shows call.method answer.outcome item

theorem output_aligned (calls : List Call) (answers : List Reply)
    (counted : answers.length = calls.length) :
    ∃ items, batchOutput calls (answers.map Reply.outcome) = .array items ∧
      Aligned calls answers items := by
  refine ⟨_, rfl, counted, ?_, ?_⟩
  · simp [counted]
  · intro index call answer named given
    refine ⟨batchItem call answer.outcome, ?_, item_shows call _⟩
    have paired : (calls.zip (answers.map Reply.outcome))[index]? = some (call, answer.outcome) := by
      rw [List.getElem?_zip_eq_some, List.getElem?_map, named, given]
      exact ⟨rfl, rfl⟩
    rw [List.getElem?_map, paired]
    rfl

section Made

theorem made_cases (made : Except Fault (Client ν))
    (ran : mode.run settings.made world = (made, ready)) :
    (∃ fault, made = .error fault ∧ ready = world) ∨
      ∃ capacity, made = .ok (settings.built capacity world).1 ∧
        ready = (settings.built capacity world).2 := by
  cases validated : settings.validate with
  | error fault =>
      rw [settings.made_invalid mode world fault validated] at ran
      obtain ⟨rfl, rfl⟩ := Prod.mk.inj ran
      exact .inl ⟨fault, rfl, rfl⟩
  | ok =>
      have valid := settings.validate_iff.mp validated
      obtain ⟨capacity, bounded⟩ := settings.capacity_exists valid
      rw [settings.made_valid mode world valid capacity bounded] at ran
      obtain ⟨rfl, rfl⟩ := Prod.mk.inj ran
      exact .inr ⟨capacity, rfl, rfl⟩

theorem made_outside (made : Except Fault (Client ν))
    (ran : mode.run settings.made world = (made, ready)) : ready.outside = world.outside := by
  rcases made_cases mode settings world ready made ran with ⟨_, _, rfl⟩ | ⟨capacity, _, rfl⟩
  · rfl
  · unfold Settings.built Settings.created Settings.opened
    cases settings.cacheEnabled <;> rfl

theorem made_layers (ran : mode.run settings.made world = (.ok client, ready)) :
    ∀ layer ∈ client.stack.items, ∃ check memory, layer = .staleness check memory := by
  rcases made_cases mode settings world ready _ ran with ⟨_, failed, _⟩ | ⟨capacity, made, _⟩
  · cases failed
  · obtain rfl := Except.ok.inj made
    intro layer member
    unfold Settings.built Settings.created at member
    cases checked : settings.check with
    | none =>
        rw [checked] at member
        cases member
    | some check =>
        rw [checked] at member
        exact ⟨check, _, List.mem_singleton.mp member⟩

theorem made_answers (member : Member ν)
    (made : member.mode.run settings.made world = (.ok member.client, ready)) (calls : List Call)
    (outcomes : List (Except Fault Json)) (after : World ν)
    (ended : member.requestBatch calls ready = (.ok outcomes, after)) :
    ∃ between answers asked, member.prepared calls ready = (.ok calls, between) ∧
      member.sentBatch calls between = (.ok answers, asked) ∧ answers.length = calls.length ∧
      outcomes = answers.map Reply.outcome := by
  have layers := made_layers member.mode settings world ready member.client made
  have passing : ∀ layer ∈ member.client.stack.items,
      (layer.hooks : Hooks (StateM (World ν))).PassesOn := by
    intro layer inside
    obtain ⟨check, memory, rfl⟩ := layers layer inside
    exact staleness_passes_on check memory
  have returning : ∀ layer ∈ member.client.stack.items,
      (layer.hooks : Hooks (StateM (World ν))).Returns fun _ reply => reply := by
    intro layer inside
    obtain ⟨check, memory, rfl⟩ := layers layer inside
    exact fun _ _ reply => pure_yields reply
  have given := member.request_batch_outcome calls ready
  rw [ended, member.passed_batch_outcome _ returning] at given
  cases replied : member.answeredAll calls ready with
  | mk outcome asked =>
      rw [replied] at given
      cases outcome with
      | error fault => cases given
      | ok answers =>
          obtain ⟨sent, between, out, answered, counted⟩ :=
            member.answered_all_way calls ready asked answers replied
          obtain rfl := member.prepared_same passing calls sent ready between out
          refine ⟨between, answers, asked, out, answered, counted, ?_⟩
          have same (pair : Call × Reply) :
              member.shown (fun _ _ reply => reply) pair.1.method pair.2 = pair.2 :=
            Hooks.changed_nothing _ _ _
          have second : (sent.zip answers).map Prod.snd = answers :=
            List.map_snd_zip (Nat.le_of_eq counted)
          have replies := Except.ok.inj given
          simp only [same] at replies
          rw [replies]
          exact congrArg (List.map Reply.outcome) second

end Made

end Runs

def Arguments.mode (arguments : Arguments) : Mode :=
  if arguments.suspendable then .suspendable else .blocking

def ended {ε : Type} (ran : Except Chain Json × World (Wire.Session ε)) : Outcome × ε :=
  match ran.1 with
  | .ok output => (.printed (output.indented ++ "\n"), ran.2.outside.server)
  | .error chain => (.failed chain.text, ran.2.outside.server)

theorem run_batch {ε : Type} (arguments : List String) (files : String → FileContents)
    (server : Wire.Server ε) (clock : Clock) (kept : ε) (parsed : Arguments) (settings : Settings)
    (texts : List String) (parse : Arguments.read arguments = .ok parsed)
    (batch : parsed.action = .batch texts) (load : Command.settings parsed files = .ok settings) :
    run arguments files server clock kept =
      ended (parsed.mode.run (batchRun settings (Wire.node server) (.thread 1) texts)
        (.start (.start kept) clock)) := by
  unfold run
  rw [parse]
  dsimp only
  rw [load, batch]
  unfold Arguments.mode
  cases parsed.suspendable with
  | false => rfl
  | true => rfl

theorem run_rejected {ε : Type} (arguments : List String) (files : String → FileContents)
    (server : Wire.Server ε) (clock : Clock) (kept : ε) (parsed : Arguments) (settings : Settings)
    (texts : List String) (parse : Arguments.read arguments = .ok parsed)
    (batch : parsed.action = .batch texts) (load : Command.settings parsed files = .ok settings)
    (rejected : Rejected texts) :
    ∃ message, run arguments files server clock kept = (.failed message, kept) := by
  rw [run_batch arguments files server clock kept parsed settings texts parse batch load]
  obtain ⟨chain, failed⟩ := rejected_fails texts rejected
  cases ran : parsed.mode.run settings.made (World.start (Wire.Session.start kept) clock) with
  | mk made ready =>
      have outside := made_outside parsed.mode settings _ ready made ran
      cases made with
      | error fault =>
          rw [batch_unmade _ settings _ _ texts _ ready fault ran]
          exact ⟨_, congrArg (fun outside => (_, outside.server)) outside⟩
      | ok client =>
          rw [batch_rejected _ settings _ _ texts _ ready client chain ran failed]
          exact ⟨_, congrArg (fun outside => (_, outside.server)) outside⟩

theorem checked_valid (settings loaded : Settings) (problem : Fault → Chain)
    (checked : (do settings.validate.mapError problem; return settings : Except Chain Settings) =
      .ok loaded) : loaded.Valid := by
  obtain ⟨_, passed, same⟩ := (bind_ok _ _ _).mp checked
  obtain rfl := Except.ok.inj same
  rw [← Settings.validate_iff]
  cases validated : settings.validate with
  | ok => rfl
  | error fault =>
      rw [validated] at passed
      cases passed

theorem loaded_valid (parsed : Arguments) (files : String → FileContents) (settings : Settings)
    (load : Command.settings parsed files = .ok settings) : settings.Valid := by
  unfold Command.settings at load
  dsimp only at load
  split at load
  all_goals
    obtain ⟨base, _, load⟩ := (bind_ok _ _ _).mp load
    split at load
    all_goals
      obtain ⟨listed, _, load⟩ := (bind_ok _ _ _).mp load
      exact checked_valid _ settings _ load

theorem loaded_made (parsed : Arguments) (files : String → FileContents) (settings : Settings)
    (load : Command.settings parsed files = .ok settings) (mode : Mode) (world : World ν) :
    ∃ client ready, mode.run settings.made world = (.ok client, ready) := by
  have valid := loaded_valid parsed files settings load
  obtain ⟨capacity, bounded⟩ := settings.capacity_exists valid
  exact ⟨_, _, settings.made_valid mode world valid capacity bounded⟩

-- First the texts, whichever are accepted and as what; then a batch of them with any node, and a run of
-- the command line with any server.
theorem batch_aligned :
    (∀ method, method ≠ "" → '=' ∉ method.toList →
      readCallText method = .ok ⟨method, []⟩ ∧
      ∀ params : Params, Json.read (Json.array params).compact = .ok (.array params) →
        readCallText (method ++ "=" ++ (Json.array params).compact) = .ok ⟨method, params⟩) ∧
    (∀ params : Params, Json.Legible Json.Reader.depthLimit (.array params) →
      Json.read (Json.array params).compact = .ok (.array params)) ∧
    (∀ text call, readCallText text = .ok call → call.method ≠ "" ∧
      call.method.toList = text.toList.takeWhile (· ≠ '=')) ∧
    (∀ text call, readCallText text = .ok call ↔ CallText text call) ∧
    (∀ (ν : Type) (settings : Settings) (member : Member ν) (context : Context)
        (texts : List String) (world ready : World ν),
      member.mode.run settings.made world = (.ok member.client, ready) →
      let run := member.mode.run (batchRun settings member.node context texts) world
      ready.outside = world.outside ∧
      (Rejected texts → ∃ chain, ∀ node : Node ν,
        member.mode.run (batchRun settings node context texts) world = (.error chain, ready)) ∧
      ∀ calls, List.Forall₂ CallText texts calls →
        run = (reported calls (member.requestBatch calls ready).1,
          (member.requestBatch calls ready).2) ∧
        ∀ output after, run = (.ok output, after) → ∃ between answers asked items,
          member.prepared calls ready = (.ok calls, between) ∧
          member.sentBatch calls between = (.ok answers, asked) ∧
          output = .array items ∧ Aligned calls answers items) ∧
    ∀ (ε : Type) (arguments : List String) (files : String → FileContents)
        (server : Wire.Server ε) (clock : Clock) (kept : ε) (parsed : Arguments)
        (settings : Settings) (texts : List String),
      Arguments.read arguments = .ok parsed → parsed.action = .batch texts →
      Command.settings parsed files = .ok settings →
      (∃ client ready, parsed.mode.run settings.made (.start (Wire.Session.start kept) clock) =
        (.ok client, ready)) ∧
      (Rejected texts →
        ∃ message, run arguments files server clock kept = (.failed message, kept)) ∧
      run arguments files server clock kept =
        ended (parsed.mode.run (batchRun settings (Wire.node server) (.thread 1) texts)
          (.start (.start kept) clock)) := by
  refine ⟨?_, ?_, ?_, read_call_iff, ?_, ?_⟩
  · intro method named plain
    refine ⟨(read_call_iff _ _).mpr (.bare method named plain), fun params read => ?_⟩
    exact (read_call_iff _ _).mpr (.given method _ params named plain read)
  · exact fun params legible => Json.legible_reads _ legible _ (Json.compact_spaced _)
  · exact fun text call read => call_text_method text call ((read_call_iff text call).mp read)
  · intro ν settings member context texts world ready made
    refine ⟨made_outside member.mode settings world ready _ made, fun rejected => ?_, ?_⟩
    · obtain ⟨chain, failed⟩ := rejected_fails texts rejected
      exact ⟨chain, fun node => batch_rejected _ settings node context texts world ready _ chain made
        failed⟩
    · intro calls named
      have sent := batch_sent settings context texts world ready member calls made
        ((texts_read_iff texts calls).mpr named)
      refine ⟨sent, fun output after done => ?_⟩
      rw [sent] at done
      obtain ⟨reply, same⟩ := Prod.mk.inj done
      cases outcome : (member.requestBatch calls ready).1 with
      | error fault =>
          rw [outcome] at reply
          cases reply
      | ok outcomes =>
          rw [outcome] at reply
          cases reply
          obtain ⟨between, answers, asked, out, answered, counted, rfl⟩ :=
            made_answers settings world ready member made calls outcomes after (Prod.ext outcome same)
          obtain ⟨items, written, aligned⟩ := output_aligned calls answers counted
          exact ⟨between, answers, asked, items, out, answered, written, aligned⟩
  · intro ε arguments files server clock kept parsed settings texts parse batch load
    exact ⟨loaded_made parsed files settings load parsed.mode _,
      run_rejected arguments files server clock kept parsed settings texts parse batch load,
      run_batch arguments files server clock kept parsed settings texts parse batch load⟩

def selective : Node Unit where
  send _ state := (.error (.transport "" "no answer"), state)
  sendBatch calls state := (.ok (calls.map fun call =>
    if call.method = "eth_chainId" then .success "0x1" else .failure (some 3) "reverted"), state)

def selectiveMember : Member Unit :=
  ⟨.blocking, selective, (Settings.built {} none (.start () (.still 0))).1⟩

theorem printed_params : Json.read "[\"a=b\"]" = .ok (.array [.string "a=b"]) := by
  have legible : Json.Legible Json.Reader.depthLimit (.array [.string "a=b"]) :=
    .array _ _ fun item member => List.mem_singleton.mp member ▸ .string _ "a=b"
  exact Json.legible_reads _ legible _ (Json.compact_spaced (.array [.string "a=b"]))

theorem mixed_texts : List.Forall₂ CallText ["eth_call=[\"a=b\"]", "eth_chainId"]
    [⟨"eth_call", [.string "a=b"]⟩, ⟨"eth_chainId", []⟩] :=
  .cons (.given "eth_call" "[\"a=b\"]" _ (by decide) (by decide) printed_params)
    (.cons (.bare "eth_chainId" (by decide) (by decide)) .nil)

theorem batch_aligned_mixed :
    (readCallText "eth_chainId" = .ok ⟨"eth_chainId", []⟩ ∧
      readCallText ("eth_call" ++ "=" ++ (Json.array [.string "a=b"]).compact) =
        .ok ⟨"eth_call", [.string "a=b"]⟩) ∧
    (∃ after answers items,
      selectiveMember.mode.run (batchRun {} selective (.thread 1)
        ["eth_call=[\"a=b\"]", "eth_chainId"]) (.start () (.still 0)) = (.ok (.array items), after) ∧
      Aligned [⟨"eth_call", [.string "a=b"]⟩, ⟨"eth_chainId", []⟩] answers items) ∧
    ∃ message, run ["batch", "eth_chainId", "=[]"] (fun _ => .absent) Wire.recorded (.still 0)
      ⟨[], []⟩ = (.failed message, ⟨[], []⟩) := by
  obtain ⟨texts, printed, _, _, runs, programs⟩ := batch_aligned
  have made : selectiveMember.mode.run (Settings.made {}) (.start () (.still 0)) =
      (.ok selectiveMember.client, (Settings.built {} none (.start () (.still 0))).2) := rfl
  refine ⟨?_, ?_, ?_⟩
  · refine ⟨(texts "eth_chainId" (by decide) (by decide)).1,
      (texts "eth_call" (by decide) (by decide)).2 _ ?_⟩
    exact printed_params
  · obtain ⟨_, _, sent⟩ := runs Unit {} selectiveMember (.thread 1) _ _ _ made
    obtain ⟨ran, shown⟩ := sent _ mixed_texts
    have done := ran.trans (b := (Except.ok (batchOutput _
      [.error (.rpc (some 3) "reverted" none), .ok (.string "0x1")]), _)) rfl
    obtain ⟨_, answers, _, items, _, _, same, aligned⟩ := shown _ _ done
    exact ⟨_, answers, items, done.trans (by rw [same]), aligned⟩
  · have parse : Arguments.read ["batch", "eth_chainId", "=[]"] =
        .ok ⟨defaultUrl, none, none, false, .batch ["eth_chainId", "=[]"]⟩ := rfl
    have rejected : Rejected ["eth_chainId", "=[]"] := by
      refine ⟨"=[]", by simp, fun call names => ?_⟩
      obtain ⟨named, same⟩ := call_text_method _ call names
      exact named (String.toList_eq_nil_iff.mp same)
    exact (programs _ _ _ _ _ _ _ {} _ parse rfl rfl).2.1 rejected

end RequestLayer.Command
