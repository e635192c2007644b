import RequestLayer.Proofs.Interleaving.Requests

set_option autoImplicit false

namespace RequestLayer

variable {ν : Type}

abbrev Results := Except Fault (List (Except Fault Json))

namespace Member

variable (member : Member ν)

def isBuilding (world : World ν) : Bool :=
  (world.clients.read member.client.id).building

def openBatch : StateM (World ν) (Except Fault Batch) := member.client.openBatch.run

def discardBatch (world : World ν) : World ν :=
  ((member.client.discardBatch : StateM (World ν) Unit) world).2

def sending (batch : Batch) : Routine (World ν) Results :=
  (member.client.executeBatch member.node batch).run

def passage (calls : List Call) : Routine (World ν) (Except Fault (List Reply)) :=
  (Hooks.executeBatch (member.client.channel member.node)
    (member.client.stack.items.map Layer.hooks) calls).run

def closing (replies : Except Fault (List Reply)) : Routine (World ν) Results :=
  .step member.discardBatch fun _ => .done (replies.map (List.map Reply.outcome))

end Member

inductive Builder (ν : Type) where
  | collecting (batch : Batch)
  | sending (batch : Batch) (found : List (World ν)) (left : Routine (World ν) Results)
  | unsent (batch : Batch)
  | cancelled (batch : Batch) (found : List (World ν)) (left : Routine (World ν) Results)

namespace Builder

def batch : Builder ν → Batch
  | .collecting batch | .sending batch _ _ | .unsent batch | .cancelled batch _ _ => batch

def isLive : Builder ν → Bool
  | .collecting _ => true
  | .sending _ _ left => !left.isDone
  | .unsent _ | .cancelled _ _ _ => false

def outcome : Builder ν → Option Results
  | .sending _ _ (.done outcome) => some outcome
  | _ => none

end Builder

structure Building (ν : Type) where
  world : World ν
  builders : List (Builder ν)

namespace Building

def put (building : Building ν) (world : World ν) (index : Nat) (builder : Builder ν) : Building ν :=
  ⟨world, building.builders.set index builder⟩

def Live (building : Building ν) (index : Nat) : Prop :=
  ∃ builder, building.builders[index]? = some builder ∧ builder.isLive = true

inductive Use where
  | open
  | add (index : Nat) (call : Call)
  | execute (index : Nat)
  | advance (index : Nat)
  | drop (index : Nat)
  | cancel (index : Nat)
  | meanwhile

def Use.addedTo (index : Nat) : Use → Option Call
  | .add chosen call => if chosen = index then some call else none
  | _ => none

def added (index : Nat) (uses : List Use) : List Call := uses.filterMap (Use.addedTo index)

-- A builder is used by its owner alone: calls are added only before it is sent, and one that was sent
-- or given up is not there to be given up again. What else happens leaves the flag of this client as
-- it is.
inductive Step (member : Member ν) (building : Building ν) : Use → Building ν → Prop where
  | opened (batch : Batch) (after : World ν)
      (accepted : member.openBatch building.world = (.ok batch, after)) :
      Step member building .open ⟨after, building.builders ++ [.collecting batch]⟩
  | refused (fault : Fault) (after : World ν)
      (refused : member.openBatch building.world = (.error fault, after)) :
      Step member building .open ⟨after, building.builders⟩
  | add (index : Nat) (call : Call) (batch : Batch)
      (there : building.builders[index]? = some (.collecting batch)) :
      Step member building (.add index call)
        (building.put building.world index (.collecting (batch.add call)))
  | execute (index : Nat) (batch : Batch)
      (there : building.builders[index]? = some (.collecting batch)) :
      Step member building (.execute index)
        (building.put building.world index (.sending batch [] (member.sending batch)))
  | advance (index : Nat) (batch : Batch) (found : List (World ν))
      (left : Routine (World ν) Results)
      (there : building.builders[index]? = some (.sending batch found left))
      (running : left.isDone = false) :
      Step member building (.advance index)
        (building.put (left.advance building.world).2 index
          (.sending batch (found ++ [building.world]) (left.advance building.world).1))
  | drop (index : Nat) (batch : Batch)
      (there : building.builders[index]? = some (.collecting batch)) :
      Step member building (.drop index)
        (building.put (member.discardBatch building.world) index (.unsent batch))
  | cancel (index : Nat) (batch : Batch) (found : List (World ν))
      (left : Routine (World ν) Results)
      (there : building.builders[index]? = some (.sending batch found left))
      (running : left.isDone = false) (suspendable : member.mode = .suspendable) :
      Step member building (.cancel index)
        (building.put (member.discardBatch building.world) index (.cancelled batch found left))
  | meanwhile (after : World ν)
      (apart : member.isBuilding after = member.isBuilding building.world) :
      Step member building .meanwhile ⟨after, building.builders⟩

inductive Reached (member : Member ν) (world : World ν) : List Use → Building ν → Prop where
  | start : Reached member world [] ⟨world, []⟩
  | more (uses : List Use) (use : Use) (before after : Building ν)
      (reached : Reached member world uses before) (step : Step member before use after) :
      Reached member world (uses ++ [use]) after

-- Further uses end the builder with a number, with an outcome if it has one, and leave a world.
def Ends (member : Member ν) (start : World ν) (uses : List Use) (index : Nat)
    (ended : Option Results × World ν) : Prop :=
  ∃ more after builder, Reached member start (uses ++ more) after ∧
    after.builders[index]? = some builder ∧ builder.isLive = false ∧
    (builder.outcome, after.world) = ended

section Driven

variable {member : Member ν} {start : World ν}

theorem put_there (building : Building ν) (world : World ν) (index : Nat) (old builder : Builder ν)
    (there : building.builders[index]? = some old) :
    (building.put world index builder).builders[index]? = some builder :=
  List.getElem?_set_self (List.getElem?_eq_some_iff.mp there).1

-- By induction on what is left before the flag is cleared: each transition is an advance, and at the
-- pause where the routine is dropped the builder is cancelled.
theorem driven_until (index : Nat) (batch : Batch) (left : Routine (World ν) Results) :
    ∀ (pauses : Nat) (uses : List Use) (building : Building ν) (found : List (World ν)),
      Reached member start uses building →
      building.builders[index]? = some (.sending batch found
        (left >>= fun outcome => .step member.discardBatch fun _ => .done outcome)) →
      ((left.runUntil pauses building.world).1 = none → member.mode = .suspendable) →
      ∃ more after builder, Reached member start (uses ++ more) after ∧
        after.world = member.discardBatch (left.runUntil pauses building.world).2 ∧
        after.builders[index]? = some builder ∧ builder.isLive = false ∧
        builder.outcome = (left.runUntil pauses building.world).1 := by
  induction left with
  | done outcome =>
      intro pauses uses building found reached there suspendable
      exact ⟨[.advance index], _, _,
        reached.more _ _ _ _ (.advance index batch found _ there rfl), rfl,
        put_there building _ index _ _ there, rfl, rfl⟩
  | step change next ih =>
      intro pauses uses building found reached there suspendable
      have moved := reached.more _ _ _ _ (.advance index batch found _ there rfl)
      obtain ⟨more, after, builder, further, rest⟩ := ih building.world pauses _ _
        (found ++ [building.world]) moved (put_there building _ index _ _ there) suspendable
      rw [← List.append_cons] at further
      exact ⟨.advance index :: more, after, builder, further, rest⟩
  | pause point next ih =>
      intro pauses uses building found reached there suspendable
      cases pauses with
      | zero =>
          exact ⟨[.cancel index], _, _,
            reached.more _ _ _ _ (.cancel index batch found _ there rfl (suspendable rfl)), rfl,
            put_there building _ index _ _ there, rfl, rfl⟩
      | succ pauses =>
          have moved := reached.more _ _ _ _ (.advance index batch found _ there rfl)
          obtain ⟨more, after, builder, further, rest⟩ := ih pauses _ _
            (found ++ [building.world]) moved (put_there building _ index _ _ there) suspendable
          rw [← List.append_cons] at further
          exact ⟨.advance index :: more, after, builder, further, rest⟩

variable (uses : List Use) (building : Building ν) (reached : Reached member start uses building)
  (index : Nat) (batch : Batch) (there : building.builders[index]? = some (.collecting batch))

include reached there

theorem sent_until (pauses : Nat)
    (suspendable :
      (member.client.executeBatchUntil member.node batch pauses building.world).1 = none →
        member.mode = .suspendable) :
    Ends member start uses index
      (member.client.executeBatchUntil member.node batch pauses building.world) := by
  have sent := reached.more _ _ _ _ (.execute index batch there)
  obtain ⟨more, after, builder, further, world, found, ended, outcome⟩ :=
    driven_until index batch (member.client.requestBatchAsync member.node batch.calls).run
      pauses _ _ [] sent (put_there building _ index _ _ there) suspendable
  rw [← List.append_cons] at further
  refine ⟨.execute index :: more, after, builder, further, found, ended, ?_⟩
  rw [world, outcome]
  rfl

theorem sent_whole :
    Ends member start uses index (Prod.map some id (member.executeBatch batch building.world)) := by
  have alone : (member.sending batch).run = (member.client.executeBatch member.node batch).run :=
    congrArg ExceptT.run (built_batch_alone member.client member.node batch)
  have parts : member.sending batch =
      (member.client.requestBatch member.node batch.calls).run >>= fun outcome =>
        .step member.discardBatch fun _ => .done outcome := rfl
  obtain ⟨pauses, last⟩ := Routine.run_until
    (member.client.requestBatch member.node batch.calls :
      ExceptT Fault (Routine (World ν)) (List (Except Fault Json))).run building.world
  have same : member.client.executeBatchUntil member.node batch pauses building.world =
      Prod.map some id (member.executeBatch batch building.world) := by
    rw [member.execute_batch_blocking, ← alone, parts, Routine.run_bind]
    exact congrArg (Prod.map id member.discardBatch) last
  rw [← same]
  apply sent_until uses building reached index batch there pauses
  rw [same]
  exact fun none => (nomatch none)

end Driven

theorem discarded_flag (member : Member ν) (world : World ν) :
    member.isBuilding (member.discardBatch world) = false := by
  change ((world.clients.write _ _).read _).building = false
  rw [Slots.read_write, if_pos rfl]

theorem open_cases (member : Member ν) (world : World ν) :
    member.isBuilding world = true ∧
      member.openBatch world = (.error .batchInProgress, world) ∨
    member.isBuilding world = false ∧
      ∃ after, member.openBatch world = (.ok ⟨[]⟩, after) ∧ member.isBuilding after = true := by
  have parts : member.openBatch world =
      (ite (member.isBuilding world = true) _ _ : ExceptT Fault (StateM (World ν)) Batch).run world :=
    rfl
  cases flag : member.isBuilding world with
  | true =>
      refine .inl ⟨rfl, ?_⟩
      rw [parts, if_pos flag]
      rfl
  | false =>
      refine .inr ⟨rfl, ((member.client.setBuilding true : StateM (World ν) Unit) world).2, ?_, ?_⟩
      · rw [parts, flag]
        rfl
      · change ((world.clients.write _ _).read _).building = true
        rw [Slots.read_write, if_pos rfl]

theorem sending_parts (member : Member ν) (batch : Batch) :
    member.sending batch = member.passage batch.calls >>= member.closing := by
  rw [Member.sending, Client.execute_batch_eq, Client.request_batch_eq, ExceptT.run_mk,
    ExceptT.run_bind, bind_assoc]
  unfold Member.passage
  congr 1
  funext replies
  cases replies <;> rfl

theorem passage_quiet (member : Member ν) (calls : List Call) :
    Quiet ν _ (member.passage calls) :=
  (quiet_parallel.execute_batch_agree _ _ (client_channel_quiet member.client member.node) _ _
    (client_quiet member.client member.node).stack calls).2

theorem closing_reaches (member : Member ν) (replies : Except Fault (List Reply))
    (found : List (World ν)) (left : Routine (World ν) Results)
    (reached : (member.closing replies).Reaches found left) :
    found = [] ∧ left = member.closing replies ∨
      ∃ last, found = [last] ∧ left = .done (replies.map (List.map Reply.outcome)) := by
  induction reached with
  | start => exact .inl ⟨rfl, rfl⟩
  | more early left last before running ih =>
      rcases ih with ⟨rfl, rfl⟩ | ⟨_, _, rfl⟩
      · exact .inr ⟨last, rfl, rfl⟩
      · cases running

theorem sending_reaches (member : Member ν) (batch : Batch) (found : List (World ν))
    (left : Routine (World ν) Results) (reached : (member.sending batch).Reaches found left) :
    (∃ part, (member.passage batch.calls).Reaches found part ∧ part.isDone = false ∧
      left = part >>= member.closing) ∨
    (∃ replies, (member.passage batch.calls).Reaches found (.done replies) ∧
      left = member.closing replies) ∨
    ∃ early last replies, found = early ++ [last] ∧
      (member.passage batch.calls).Reaches early (.done replies) ∧
      left = .done (replies.map (List.map Reply.outcome)) := by
  rw [sending_parts] at reached
  rcases Routine.bind_reaches _ _ _ _ reached with
    inside | ⟨early, late, replies, rfl, there, further⟩
  · exact .inl inside
  · rcases closing_reaches member replies late left further with ⟨rfl, same⟩ | ⟨last, rfl, same⟩
    · rw [List.append_nil]
      exact .inr (.inl ⟨replies, there, same⟩)
    · exact .inr (.inr ⟨early, last, replies, rfl, there, same⟩)

theorem advance_flag (member : Member ν) (batch : Batch) (found : List (World ν))
    (left : Routine (World ν) Results) (reached : (member.sending batch).Reaches found left)
    (running : left.isDone = false) (world : World ν) :
    (left.advance world).1.isDone = false ∧
      member.isBuilding (left.advance world).2 = member.isBuilding world ∨
    (left.advance world).1.isDone = true ∧ member.isBuilding (left.advance world).2 = false := by
  rcases sending_reaches member batch found left reached with
    ⟨part, there, going, rfl⟩ | ⟨replies, there, rfl⟩ | ⟨early, last, replies, rfl, there, rfl⟩
  · rw [Routine.bind_advance part member.closing world going]
    have quiet : Quiet ν _ part :=
      Routine.reaches_within _ _ (passage_quiet member batch.calls) found part there
    have kept := Routine.advance_within _ World.Untouched.refl part quiet world
    refine .inl ⟨?_, ?_⟩
    · cases (part.advance world).1 <;> rfl
    · unfold Member.isBuilding
      rw [kept.clients]
  · exact .inr ⟨rfl, discarded_flag member world⟩
  · cases running

structure Held (member : Member ν) (building : Building ν) (holder : Option Nat) : Prop where
  flag : member.isBuilding building.world = holder.isSome
  live : ∀ index, building.Live index ↔ holder = some index

theorem last_place (builders : List (Builder ν)) (builder : Builder ν) (index : Nat) :
    (builders ++ [builder])[index]? =
      if index = builders.length then some builder else builders[index]? := by
  rcases Nat.lt_trichotomy index builders.length with inside | rfl | outside
  · rw [List.getElem?_append_left inside, if_neg (Nat.ne_of_lt inside)]
  · rw [List.getElem?_concat_length, if_pos rfl]
  · rw [if_neg (Nat.ne_of_gt outside), List.getElem?_eq_none (Nat.le_of_lt outside)]
    apply List.getElem?_eq_none
    rw [List.length_append]
    exact outside

section Places

variable (member : Member ν) (building : Building ν) (holder : Option Nat) (world : World ν)

theorem put_live (index : Nat) (old builder : Builder ν)
    (there : building.builders[index]? = some old) (other : Nat) :
    (building.put world index builder).Live other ↔
      if index = other then builder.isLive = true else building.Live other := by
  have inside : index < building.builders.length := (List.getElem?_eq_some_iff.mp there).1
  unfold Live put
  rw [List.getElem?_set]
  by_cases same : index = other
  · rw [if_pos same, if_pos same, if_pos inside]
    simp
  · rw [if_neg same, if_neg same]

variable {member building holder world}

theorem Held.kept (held : building.Held member holder) (index : Nat) (old builder : Builder ν)
    (there : building.builders[index]? = some old) (live : old.isLive = true)
    (still : builder.isLive = true)
    (same : member.isBuilding world = member.isBuilding building.world) :
    (building.put world index builder).Held member holder := by
  refine ⟨same.trans held.flag, fun other => ?_⟩
  rw [put_live building world index old builder there]
  by_cases here : index = other
  · rw [if_pos here, ← here]
    exact ⟨fun _ => (held.live index).mp ⟨old, there, live⟩, fun _ => still⟩
  · rw [if_neg here]
    exact held.live other

theorem Held.released (held : building.Held member holder) (index : Nat) (old builder : Builder ν)
    (there : building.builders[index]? = some old) (live : old.isLive = true)
    (ended : builder.isLive = false) (clear : member.isBuilding world = false) :
    (building.put world index builder).Held member none := by
  refine ⟨clear, fun other => ?_⟩
  rw [put_live building world index old builder there]
  have own : holder = some index := (held.live index).mp ⟨old, there, live⟩
  by_cases here : index = other
  · rw [if_pos here, ended]
    simp
  · rw [if_neg here, held.live other, own]
    simp [here]

theorem Held.opened (held : building.Held member none) (builder : Builder ν)
    (live : builder.isLive = true) (flag : member.isBuilding world = true) :
    (⟨world, building.builders ++ [builder]⟩ : Building ν).Held member
      (some building.builders.length) := by
  refine ⟨flag, fun other => ?_⟩
  unfold Live
  rw [last_place]
  by_cases here : other = building.builders.length
  · rw [if_pos here, here]
    exact ⟨fun _ => rfl, fun _ => ⟨builder, rfl, live⟩⟩
  · rw [if_neg here]
    constructor
    · intro there
      cases (held.live other).mp there
    · intro same
      exact (here (Option.some.inj same).symm).elim

end Places

def Underway (member : Member ν) : Builder ν → Prop
  | .collecting _ | .unsent _ => True
  | .sending batch found left => (member.sending batch).Reaches found left
  | .cancelled batch found left =>
      (member.sending batch).Reaches found left ∧ left.isDone = false

structure Recorded (member : Member ν) (uses : List Use) (building : Building ν) : Prop where
  each : ∀ index builder, building.builders[index]? = some builder →
    builder.batch.calls = added index uses ∧ Underway member builder
  unopened : ∀ index, building.builders.length ≤ index → added index uses = []

theorem added_snoc (index : Nat) (uses : List Use) (use : Use) :
    added index (uses ++ [use]) = added index uses ++ (use.addedTo index).toList := by
  unfold added
  rw [List.filterMap_append]
  cases given : use.addedTo index <;> simp [given]

section Records

variable {member : Member ν} {building : Building ν} {uses : List Use}

theorem Recorded.unadded (recorded : building.Recorded member uses) (use : Use)
    (nothing : ∀ index, use.addedTo index = none) : building.Recorded member (uses ++ [use]) := by
  have same (index : Nat) : added index (uses ++ [use]) = added index uses := by
    rw [added_snoc, nothing]
    exact List.append_nil _
  constructor
  · intro index builder there
    rw [same]
    exact recorded.each index builder there
  · intro index outside
    rw [same]
    exact recorded.unopened index outside

theorem Recorded.put (recorded : building.Recorded member uses) (world : World ν) (use : Use)
    (index : Nat) (old builder : Builder ν) (there : building.builders[index]? = some old)
    (apart : ∀ other, index ≠ other → use.addedTo other = none)
    (calls : builder.batch.calls = old.batch.calls ++ (use.addedTo index).toList)
    (underway : Underway member builder) :
    (building.put world index builder).Recorded member (uses ++ [use]) := by
  have inside : index < building.builders.length := (List.getElem?_eq_some_iff.mp there).1
  constructor
  · intro other another found
    change (building.builders.set index builder)[other]? = some another at found
    rw [List.getElem?_set] at found
    rw [added_snoc]
    by_cases same : index = other
    · subst same
      rw [if_pos rfl, if_pos inside] at found
      cases found
      rw [calls, (recorded.each index old there).1]
      exact ⟨rfl, underway⟩
    · rw [if_neg same] at found
      rw [apart other same]
      exact ⟨(recorded.each other another found).1.trans (List.append_nil _).symm,
        (recorded.each other another found).2⟩
  · intro other outside
    change (building.builders.set index builder).length ≤ other at outside
    rw [List.length_set] at outside
    rw [added_snoc, recorded.unopened other outside, apart other (by omega)]
    rfl

theorem Recorded.opened (recorded : building.Recorded member uses) (world : World ν) :
    (⟨world, building.builders ++ [.collecting ⟨[]⟩]⟩ : Building ν).Recorded member uses := by
  constructor
  · intro index builder there
    rw [last_place] at there
    by_cases here : index = building.builders.length
    · rw [if_pos here] at there
      cases there
      exact ⟨(recorded.unopened index (Nat.le_of_eq here.symm)).symm, trivial⟩
    · rw [if_neg here] at there
      exact recorded.each index builder there
  · intro index outside
    rw [List.length_append] at outside
    exact recorded.unopened index (by omega)

end Records

-- All that a step does to the flag, to the one that holds it and to what the builders have come to.
theorem step_invariant (member : Member ν) (uses : List Use) (use : Use)
    (before after : Building ν) (step : Step member before use after)
    (recorded : before.Recorded member uses) (holder : Option Nat)
    (held : before.Held member holder) :
    after.Recorded member (uses ++ [use]) ∧ ∃ holder, after.Held member holder := by
  cases step with
  | opened batch world accepted =>
      rcases open_cases member before.world with ⟨_, refused⟩ | ⟨free, _, opened, flag⟩
      · rw [refused] at accepted
        cases accepted
      · rw [opened] at accepted
        cases accepted
        obtain rfl : holder = none := by simpa using held.flag.symm.trans free
        exact ⟨(recorded.opened _).unadded _ fun _ => rfl, _, held.opened _ rfl flag⟩
  | refused fault world refused =>
      rcases open_cases member before.world with ⟨_, unchanged⟩ | ⟨_, _, opened, _⟩
      · rw [unchanged] at refused
        cases refused
        exact ⟨recorded.unadded _ fun _ => rfl, holder, held⟩
      · rw [opened] at refused
        cases refused
  | add index call batch there =>
      refine ⟨recorded.put _ _ index _ _ there (fun _ apart => if_neg apart) ?_ trivial, holder,
        held.kept index _ _ there rfl rfl rfl⟩
      change batch.calls ++ [call] = batch.calls ++ (if index = index then some call else none).toList
      rw [if_pos rfl]
      rfl
  | execute index batch there =>
      refine ⟨recorded.put _ _ index _ _ there (fun _ _ => rfl) (List.append_nil _).symm .start,
        holder, held.kept index _ _ there rfl ?_ rfl⟩
      change (!(member.sending batch).isDone) = true
      rw [sending_parts]
      cases member.passage batch.calls <;> rfl
  | advance index batch found left there running =>
      have reached : (member.sending batch).Reaches found left := (recorded.each index _ there).2
      have live : (Builder.sending batch found left).isLive = true := by
        rw [Builder.isLive, running]
        rfl
      refine ⟨recorded.put _ _ index _ _ there (fun _ _ => rfl) (List.append_nil _).symm
        (.more found left before.world reached running), ?_⟩
      rcases advance_flag member batch found left reached running before.world with
        ⟨going, same⟩ | ⟨ended, clear⟩
      · refine ⟨holder, held.kept index _ _ there live ?_ same⟩
        rw [Builder.isLive, going]
        rfl
      · refine ⟨none, held.released index _ _ there live ?_ clear⟩
        rw [Builder.isLive, ended]
        rfl
  | drop index batch there =>
      exact ⟨recorded.put _ _ index _ _ there (fun _ _ => rfl) (List.append_nil _).symm trivial,
        none, held.released index _ _ there rfl rfl (discarded_flag member _)⟩
  | cancel index batch found left there running suspendable =>
      have reached : (member.sending batch).Reaches found left := (recorded.each index _ there).2
      refine ⟨recorded.put _ _ index _ _ there (fun _ _ => rfl) (List.append_nil _).symm
        ⟨reached, running⟩, none, held.released index _ _ there ?_ rfl (discarded_flag member _)⟩
      rw [Builder.isLive, running]
      rfl
  | meanwhile world apart =>
      have same := recorded.unadded .meanwhile fun _ => rfl
      exact ⟨⟨same.each, same.unopened⟩, holder, apart.trans held.flag, held.live⟩

theorem reached_invariant (member : Member ν) (world : World ν)
    (idle : member.isBuilding world = false) (uses : List Use) (building : Building ν)
    (reached : Reached member world uses building) :
    building.Recorded member uses ∧ ∃ holder, building.Held member holder := by
  induction reached with
  | start =>
      refine ⟨⟨fun _ _ there => (nomatch there), fun _ _ => rfl⟩, none, idle, fun index => ?_⟩
      exact ⟨fun ⟨_, there, _⟩ => (nomatch there), fun same => (nomatch same)⟩
  | more uses use before after reached step ih =>
      obtain ⟨recorded, holder, held⟩ := ih
      exact step_invariant member uses use before after step recorded holder held

-- At most one builder is live, the flag tells whether one is, and so does an attempt to open another.
structure Exclusive (member : Member ν) (building : Building ν) : Prop where
  one : ∀ first second, building.Live first → building.Live second → first = second
  flag : member.isBuilding building.world = true ↔ ∃ index, building.Live index
  refused : (member.openBatch building.world).1 = .error .batchInProgress ↔
    ∃ index, building.Live index
  unchanged : (∃ index, building.Live index) → (member.openBatch building.world).2 = building.world
  opened : (¬ ∃ index, building.Live index) → (member.openBatch building.world).1 = .ok ⟨[]⟩

theorem Held.exclusive (member : Member ν) (building : Building ν) (holder : Option Nat)
    (held : building.Held member holder) : building.Exclusive member := by
  have flag : member.isBuilding building.world = true ↔ ∃ index, building.Live index := by
    rw [held.flag, Option.isSome_iff_exists]
    exact exists_congr fun index => (held.live index).symm
  have attempt : ((member.openBatch building.world).1 = .error .batchInProgress ↔
        ∃ index, building.Live index) ∧
      ((∃ index, building.Live index) →
        (member.openBatch building.world).2 = building.world) ∧
      ((¬ ∃ index, building.Live index) →
        (member.openBatch building.world).1 = .ok ⟨[]⟩) := by
    rcases open_cases member building.world with ⟨set, refused⟩ | ⟨clear, after, opened, _⟩
    · rw [refused]
      have live := flag.mp set
      exact ⟨⟨fun _ => live, fun _ => rfl⟩, fun _ => rfl, fun apart => (apart live).elim⟩
    · rw [opened]
      have apart (live : ∃ index, building.Live index) : False :=
        Bool.false_ne_true (clear.symm.trans (flag.mpr live))
      exact ⟨⟨fun refused => (nomatch refused), fun live => (apart live).elim⟩,
        fun live => (apart live).elim, fun _ => rfl⟩
  refine ⟨?_, flag, attempt.1, attempt.2.1, attempt.2.2⟩
  intro first second one other
  have same := ((held.live first).mp one).symm.trans ((held.live second).mp other)
  exact Option.some.inj same

-- What a builder has passed through the layers: nothing before it is sent; its calls, in one batch,
-- when it has returned; and that much of the same batch when it has not come so far.
def Passed (member : Member ν) : Builder ν → Prop
  | .collecting _ | .unsent _ => True
  | .sending batch found (.done outcome) => ∃ early last replies, found = early ++ [last] ∧
      (member.passage batch.calls).Reaches early (.done replies) ∧
      outcome = replies.map (List.map Reply.outcome)
  | .sending batch found _ | .cancelled batch found _ =>
      ∃ part, (member.passage batch.calls).Reaches found part

theorem underway_passed (member : Member ν) (builder : Builder ν)
    (underway : Underway member builder) : Passed member builder := by
  have unreturned (batch : Batch) (found : List (World ν)) (left : Routine (World ν) Results)
      (reached : (member.sending batch).Reaches found left) (running : left.isDone = false) :
      ∃ part, (member.passage batch.calls).Reaches found part := by
    rcases sending_reaches member batch found left reached with
      ⟨part, there, _⟩ | ⟨replies, there, _⟩ | ⟨_, _, _, _, _, rfl⟩
    · exact ⟨part, there⟩
    · exact ⟨.done replies, there⟩
    · cases running
  cases builder with
  | collecting batch => trivial
  | unsent batch => trivial
  | cancelled batch found left => exact unreturned batch found left underway.1 underway.2
  | sending batch found left =>
      cases left with
      | step change next => exact unreturned batch found _ underway rfl
      | pause point next => exact unreturned batch found _ underway rfl
      | done outcome =>
          rcases sending_reaches member batch found _ underway with
            ⟨part, _, running, same⟩ | ⟨replies, _, same⟩ | ⟨early, last, replies, split, there, same⟩
          · cases part with
            | done replies => cases running
            | step change next => cases same
            | pause point next => cases same
          · cases same
          · cases same
            exact ⟨early, last, replies, split, there, rfl⟩

theorem builders_exclusive (member : Member ν) (world : World ν)
    (idle : member.isBuilding world = false) (uses : List Use) (building : Building ν)
    (reached : Reached member world uses building) :
    building.Exclusive member ∧
      (∀ index builder, building.builders[index]? = some builder →
        builder.batch.calls = added index uses ∧ Passed member builder) ∧
      ∀ index batch, building.builders[index]? = some (.collecting batch) →
        Ends member world uses index
          (Prod.map some id (member.executeBatch batch building.world)) ∧
        ∀ pauses,
          ((member.client.executeBatchUntil member.node batch pauses building.world).1 = none →
            member.mode = .suspendable) →
          Ends member world uses index
            (member.client.executeBatchUntil member.node batch pauses building.world) := by
  obtain ⟨recorded, holder, held⟩ := reached_invariant member world idle uses building reached
  refine ⟨held.exclusive, fun index builder there => ?_, fun index batch there => ?_⟩
  · obtain ⟨calls, underway⟩ := recorded.each index builder there
    exact ⟨calls, underway_passed member builder underway⟩
  · exact ⟨sent_whole uses building reached index batch there,
      sent_until uses building reached index batch there⟩

theorem request_meanwhile (member : Member ν) (building : Building ν) (request : Issued ν)
    (found : List (World ν)) (left : Routine (World ν) (Except Fault Json))
    (reached : request.routine.Reaches found left) :
    Step member building .meanwhile ⟨(left.advance building.world).2, building.builders⟩ := by
  apply Step.meanwhile
  have within := Routine.reaches_within _ _ (request_keeps request) found left reached
  have kept : (left.advance building.world).2.clients = building.world.clients :=
    Routine.advance_within World.SameClients (fun _ => rfl) left within building.world
  unfold Member.isBuilding
  rw [kept]

-- Of three builders on a suspendable client the first is cancelled while its layers are at work, the
-- second is dropped before it is sent, and the third returns. An attempt to open another one while the
-- first is there is refused, and a request of the same client starts beside it.
theorem builders_exclusive_three :
    let member := counted .suspendable
    let call : Call := ⟨"eth_chainId", []⟩
    let start := countedWorld (.disabled none)
    let uses : List Use := [.open, .add 0 call, .open, .execute 0, .advance 0, .meanwhile, .cancel 0,
      .open, .drop 1, .open, .execute 2, .advance 2, .advance 2, .advance 2]
    member.isBuilding start = false ∧
      ∃ building, Reached member start uses building ∧
        building.builders.map Builder.isLive = [false, false, false] ∧
        building.Exclusive member ∧
        ∀ index builder, building.builders[index]? = some builder →
          builder.batch.calls = added index uses ∧ Passed member builder := by
  intro member call start uses
  have fresh : Reached member start [] ⟨start, []⟩ := .start
  have opened := fresh.more _ .open _ _ (.opened ⟨[]⟩ _ rfl)
  have filled := opened.more _ (.add 0 call) _ _ (.add 0 call ⟨[]⟩ rfl)
  have refused := filled.more _ .open _ _ (.refused .batchInProgress _ rfl)
  have sent := refused.more _ (.execute 0) _ _ (.execute 0 ⟨[call]⟩ rfl)
  have inside := sent.more _ (.advance 0) _ _ (.advance 0 ⟨[call]⟩ _ _ rfl rfl)
  have beside := inside.more _ .meanwhile _ _
    (request_meanwhile member _ ⟨member, .caller "a", call⟩ [] _ .start)
  have cancelled := beside.more _ (.cancel 0) _ _ (.cancel 0 ⟨[call]⟩ _ _ rfl rfl rfl)
  have second := cancelled.more _ .open _ _ (.opened ⟨[]⟩ _ rfl)
  have dropped := second.more _ (.drop 1) _ _ (.drop 1 ⟨[]⟩ rfl)
  have third := dropped.more _ .open _ _ (.opened ⟨[]⟩ _ rfl)
  have empty := third.more _ (.execute 2) _ _ (.execute 2 ⟨[]⟩ rfl)
  have posted := empty.more _ (.advance 2) _ _ (.advance 2 ⟨[]⟩ _ _ rfl rfl)
  have answered := posted.more _ (.advance 2) _ _ (.advance 2 ⟨[]⟩ _ _ rfl rfl)
  have returned := answered.more _ (.advance 2) _ _ (.advance 2 ⟨[]⟩ _ _ rfl rfl)
  obtain ⟨exclusive, passed, _⟩ := builders_exclusive member start rfl uses _ returned
  exact ⟨rfl, _, returned, rfl, exclusive, passed⟩

end Building

end RequestLayer
