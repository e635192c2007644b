import Mathlib.Data.List.Basic
import RequestLayer.Proofs.Stack.Hooks

set_option autoImplicit false

namespace RequestLayer

inductive Each {α β : Type} (one : α → Except Fault β → Journal → Prop) :
    List α → Except Fault (List β) → Journal → Prop
  | none : Each one [] (.ok []) []
  | stopped (first : α) (rest : List α) (fault : Fault) (journal : Journal)
      (failed : one first (.error fault) journal) : Each one (first :: rest) (.error fault) journal
  | next (first : α) (rest : List α) (result : β) (outcome : Except Fault (List β))
      (early late : Journal) (done : one first (.ok result) early)
      (others : Each one rest outcome late) :
      Each one (first :: rest) (outcome.map (result :: ·)) (early ++ late)

section Each

variable {α β : Type} (one : α → Except Fault β → Journal → Prop)

theorem map_records {m : Type → Type} [Monad m] [LawfulMonad m]
    (noted : α → ExceptT Fault (Journaled m) β) (plain : α → ExceptT Fault m β) (values : List α)
    (each : ∀ value, Records (noted value).run (plain value).run (one value)) :
    Records (values.mapM noted).run (values.mapM plain).run (Each one values) := by
  induction values with
  | nil => exact pure_records _ _ .none
  | cons first rest ih =>
      rw [List.mapM_cons, List.mapM_cons]
      apply then_records _ _ _ _ _ (fun result outcome late =>
        ∃ others, Each one rest others late ∧ outcome = others.map (result :: ·)) _ (each first)
      · intro result
        apply then_records _ _ _ _ _ (fun results outcome late =>
          outcome = .ok (result :: results) ∧ late = []) _ ih
        · exact fun results => pure_records _ _ ⟨rfl, rfl⟩
        · exact fun fault late others => ⟨.error fault, others, rfl⟩
        · rintro results late outcome _ others ⟨rfl, rfl⟩
          exact ⟨.ok results, by rwa [List.append_nil], rfl⟩
      · exact fun fault journal failed => .stopped first rest fault journal failed
      · rintro result early outcome late done ⟨others, following, rfl⟩
        exact .next first rest result others early late done following

theorem each_events (values : List α) (outcome : Except Fault (List β)) (journal : Journal)
    (each : Each one values outcome journal) (holds : Event → Prop)
    (inside : ∀ value result part, one value result part → ∀ event ∈ part, holds event) :
    ∀ event ∈ journal, holds event := by
  induction each with
  | none => exact fun _ member => absurd member List.not_mem_nil
  | stopped first rest fault journal failed => exact inside first _ journal failed
  | next first rest result outcome early late done others ih =>
      intro event member
      rcases List.mem_append.mp member with before | after
      · exact inside first _ early done event before
      · exact ih event after

theorem each_cons (first : α) (rest : List α) (results : List β) (journal : Journal)
    (each : Each one (first :: rest) (.ok results) journal) :
    ∃ result others early late, results = result :: others ∧ journal = early ++ late ∧
      one first (.ok result) early ∧ Each one rest (.ok others) late := by
  generalize reached : Except.ok results = outcome at each
  cases each with
  | stopped => cases reached
  | next _ _ result outcome early late done others =>
      cases outcome with
      | error fault => cases reached
      | ok following =>
          cases reached
          exact ⟨result, following, early, late, rfl, rfl, done, others⟩

theorem each_length (values : List α) (results : List β) (journal : Journal)
    (each : Each one values (.ok results) journal) : results.length = values.length := by
  induction values generalizing results journal with
  | nil => cases each; rfl
  | cons first rest ih =>
      obtain ⟨result, others, early, late, rfl, rfl, _, following⟩ :=
        each_cons one first rest results journal each
      exact congrArg (· + 1) (ih others late following)

theorem each_forall (values : List α) (results : List β) (journal : Journal)
    (each : Each one values (.ok results) journal) (holds : α → β → Prop)
    (inside : ∀ value result part, one value (.ok result) part → holds value result) :
    List.Forall₂ holds values results := by
  induction values generalizing results journal with
  | nil => cases each; exact .nil
  | cons first rest ih =>
      obtain ⟨result, others, early, late, rfl, rfl, done, following⟩ :=
        each_cons one first rest results journal each
      exact .cons (inside first result early done) (ih others late following)

theorem each_at (values : List α) (results : List β) (journal : Journal)
    (each : Each one values (.ok results) journal) (index : Nat) (value : α) (result : β)
    (asked : values[index]? = some value) (given : results[index]? = some result) :
    ∃ part, part <:+: journal ∧ one value (.ok result) part := by
  induction values generalizing results journal index with
  | nil => cases asked
  | cons first rest ih =>
      obtain ⟨own, others, early, late, rfl, rfl, done, following⟩ :=
        each_cons one first rest results journal each
      cases index with
      | zero =>
          cases asked
          cases given
          exact ⟨early, (List.prefix_append early late).isInfix, done⟩
      | succ index =>
          obtain ⟨part, within, holds⟩ := ih others late following index asked given
          exact ⟨part, within.trans (List.suffix_append early late).isInfix, holds⟩

end Each

theorem outgoing_place (layer count : Nat) (call : Call) (outcome : Except Fault Call)
    (journal : Journal) (outgoing : Outgoing layer count call outcome journal) :
    ∀ event ∈ journal, ∃ number, event.place = .request number := by
  have places : journal.places <+: requestPlaces layer count := by
    cases outcome with
    | ok sent => exact (outgoing_done _ _ _ sent journal outgoing).2.1 ▸ List.prefix_rfl
    | error fault => exact (outgoing_stopped _ _ _ fault journal outgoing).2
  intro event member
  obtain ⟨number, _, same⟩ := List.mem_map.mp (places.subset (List.mem_map_of_mem member))
  exact ⟨number, same.symm⟩

theorem incoming_place (method : String) (layer count : Nat) (reply : Reply)
    (outcome : Except Fault Reply) (journal : Journal)
    (incoming : Incoming method layer count reply outcome journal) :
    ∀ event ∈ journal, ∃ number, event.place = .reply number := by
  have places : journal.places <+: replyPlaces layer count := by
    cases outcome with
    | ok result => exact (incoming_done _ _ _ _ result journal incoming).2 ▸ List.prefix_rfl
    | error fault => exact (incoming_stopped _ _ _ _ fault journal incoming).2
  intro event member
  have within := List.mem_reverse.mp (places.subset (List.mem_map_of_mem member))
  obtain ⟨number, _, same⟩ := List.mem_map.mp within
  exact ⟨number, same.symm⟩

theorem prepared_places (count : Nat) (calls sent : List Call) (journal : Journal)
    (prepared : Each (Outgoing 0 count) calls (.ok sent) journal) :
    journal.Succeeds ∧
      journal.places = (List.replicate calls.length (requestPlaces 0 count)).flatten ∧
      sent.map Call.method = calls.map Call.method := by
  induction calls generalizing sent journal with
  | nil =>
      cases prepared
      exact ⟨fun _ member => absurd member List.not_mem_nil, rfl, rfl⟩
  | cons first rest ih =>
      obtain ⟨call, others, early, late, rfl, rfl, done, following⟩ :=
        each_cons _ first rest sent journal prepared
      obtain ⟨succeeded, places, method⟩ := outgoing_done 0 count first call early done
      obtain ⟨later, more, methods⟩ := ih others late following
      refine ⟨Journal.append_succeeds early late succeeded later, ?_, ?_⟩
      · rw [List.length_cons, List.replicate_succ, List.flatten_cons, ← more, ← places]
        exact List.map_append
      · rw [List.map_cons, List.map_cons, method, methods]

def IncomingAll (count : Nat) (calls : List Call) (replies : List Reply) :
    Except Fault (List Reply) → Journal → Prop :=
  Each (fun (pair : Call × Reply) => Incoming pair.1.method 0 count pair.2) (calls.zip replies)

inductive BatchReturn (count : Nat) (calls : List Call) :
    Except Fault (List Reply) → Except Fault (List Reply) → Journal → Prop
  | unsent (fault : Fault) : BatchReturn count calls (.error fault) (.error fault) []
  | miscounted (replies : List Reply) (wrong : replies.length ≠ calls.length) :
      BatchReturn count calls (.ok replies) (.error (miscount replies.length calls.length)) []
  | answered (replies : List Reply) (outcome : Except Fault (List Reply)) (back : Journal)
      (counted : replies.length = calls.length)
      (returned : IncomingAll count calls replies outcome back) :
      BatchReturn count calls (.ok replies) outcome back

inductive BatchPassage (count : Nat) (calls : List Call) :
    Except Fault (List Reply) → Journal → Prop
  | refused (fault : Fault) (out : Journal)
      (prepared : Each (Outgoing 0 count) calls (.error fault) out) :
      BatchPassage count calls (.error fault) out
  | sent (sent : List Call) (answer outcome : Except Fault (List Reply)) (out back : Journal)
      (prepared : Each (Outgoing 0 count) calls (.ok sent) out)
      (returned : BatchReturn count calls answer outcome back) :
      BatchPassage count calls outcome (out ++ .sentBatch sent answer :: back)

theorem throw_bind {m : Type → Type} [Monad m] [LawfulMonad m] {α β : Type} (fault : Fault)
    (next : α → ExceptT Fault m β) :
    (throw fault >>= next : ExceptT Fault m β) = throw fault := by
  apply ExceptT.ext
  rw [ExceptT.run_bind, ExceptT.run_throw, pure_bind]
  rfl

section Records

variable {m : Type → Type} [Monad m] [LawfulMonad m] [Await m] (channel : Channel m)
  (layers : List (Hooks m)) (calls : List Call)

theorem round_trip_records (sent : List Call) :
    Records (do
        let replies ← channel.journaled.sendBatch sent
        if replies.length ≠ calls.length then throw (miscount replies.length calls.length)
        (calls.zip replies).mapM fun (call, reply) =>
          Hooks.inbound channel.journaled (Hooks.journaledFrom channel 0 layers) call.method reply :
        ExceptT Fault (Journaled m) (List Reply)).run
      (do
        let replies ← channel.sendBatch sent
        if replies.length ≠ calls.length then throw (miscount replies.length calls.length)
        (calls.zip replies).mapM fun (call, reply) =>
          Hooks.inbound channel layers call.method reply : ExceptT Fault m (List Reply)).run
      fun outcome late => ∃ answer back, late = .sentBatch sent answer :: back ∧
        BatchReturn layers.length calls answer outcome back := by
  apply noting_then_records (.sentBatch sent) _ _ _ (fun replies outcome back =>
    BatchReturn layers.length calls (.ok replies) outcome back)
  · intro replies
    by_cases wrong : replies.length ≠ calls.length
    · rw [if_pos wrong, if_pos wrong, throw_bind, throw_bind]
      exact pure_records _ _ (.miscounted replies wrong)
    · rw [if_neg wrong, if_neg wrong]
      apply records_mono _ _ _ _ (map_records _ _ _ (calls.zip replies) fun pair =>
        Hooks.inbound_records channel layers 0 pair.1.method pair.2)
      exact fun outcome back returned =>
        .answered replies outcome back (not_not.mp wrong) returned
  · exact fun fault => ⟨_, [], rfl, .unsent fault⟩
  · exact fun replies outcome back returned => ⟨_, back, rfl, returned⟩

theorem execute_batch_records :
    Records (Hooks.executeBatch channel.journaled (Hooks.journaledFrom channel 0 layers) calls).run
      (Hooks.executeBatch channel layers calls).run (BatchPassage layers.length calls) := by
  rw [Hooks.execute_batch_eq, Hooks.execute_batch_eq]
  apply then_records _ _ _ _ _ (fun sent outcome late => ∃ answer back,
      late = .sentBatch sent answer :: back ∧
        BatchReturn layers.length calls answer outcome back) _
    (map_records _ _ _ calls (Hooks.outbound_records channel layers 0))
    (round_trip_records channel layers calls)
  · exact fun fault out prepared => .refused fault out prepared
  · rintro sent out outcome late prepared ⟨answer, back, rfl, returned⟩
    exact .sent sent answer outcome out back prepared returned

end Records

structure BatchReport (count : Nat) (calls : List Call) (outcome : Except Fault (List Reply))
    (journal : Journal) : Prop where
  once : journal.places.count .sentBatch ≤ 1
  prepared : ∀ early sent answer late, journal = early ++ .sentBatch sent answer :: late →
    Each (Outgoing 0 count) calls (.ok sent) early ∧ early.Succeeds ∧
      early.places = (List.replicate calls.length (requestPlaces 0 count)).flatten ∧
      sent.map Call.method = calls.map Call.method
  miscounted : ∀ early sent replies late, journal = early ++ .sentBatch sent (.ok replies) :: late →
    replies.length ≠ calls.length →
      outcome = .error (miscount replies.length calls.length) ∧ late = []
  answered : ∀ results, outcome = .ok results → ∃ early sent replies late,
    journal = early ++ .sentBatch sent (.ok replies) :: late ∧
      replies.length = calls.length ∧ results.length = calls.length ∧
      ∀ (index : Nat) call reply result, calls[index]? = some call → replies[index]? = some reply →
        results[index]? = some result → ∃ part : Journal, part <:+: late ∧
          part.places = replyPlaces 0 count ∧
          Incoming call.method 0 count reply (.ok result) part

section Report

variable (count : Nat) (calls : List Call)

theorem prepared_no_batch (outcome : Except Fault (List Call)) (out : Journal)
    (prepared : Each (Outgoing 0 count) calls outcome out) :
    ∀ event ∈ out, event.place ≠ .sentBatch := by
  apply each_events _ calls outcome out prepared
  intro call result part outgoing event member
  obtain ⟨number, place⟩ := outgoing_place 0 count call result part outgoing event member
  rw [place]
  exact nofun

theorem returned_no_batch (answer outcome : Except Fault (List Reply)) (back : Journal)
    (returned : BatchReturn count calls answer outcome back) :
    ∀ event ∈ back, event.place ≠ .sentBatch := by
  cases returned with
  | unsent => exact fun _ member => absurd member List.not_mem_nil
  | miscounted => exact fun _ member => absurd member List.not_mem_nil
  | answered replies _ _ counted incoming =>
      apply each_events _ (calls.zip replies) outcome back incoming
      intro pair result part incoming event member
      obtain ⟨number, place⟩ := incoming_place _ 0 count pair.2 result part incoming event member
      rw [place]
      exact nofun

theorem no_batch_places (journal : Journal) (none : ∀ event ∈ journal, event.place ≠ .sentBatch) :
    journal.places.count .sentBatch = 0 := by
  apply List.count_eq_zero_of_not_mem
  intro member
  obtain ⟨event, within, place⟩ := List.mem_map.mp member
  exact none event within place

-- The round trip stands in the journal once, so it can be taken apart there in one way only.
theorem passage_sent (outcome : Except Fault (List Reply)) (journal : Journal)
    (passage : BatchPassage count calls outcome journal) (early late : Journal) (sent : List Call)
    (answer : Except Fault (List Reply)) (split : journal = early ++ .sentBatch sent answer :: late) :
    Each (Outgoing 0 count) calls (.ok sent) early ∧
      BatchReturn count calls answer outcome late := by
  cases passage with
  | refused fault _ prepared =>
      have member : Event.sentBatch sent answer ∈ journal := by simp [split]
      exact absurd rfl (prepared_no_batch count calls _ journal prepared _ member)
  | sent _ _ _ out back prepared returned =>
      obtain ⟨rfl, same, rfl⟩ := (List.append_cons_inj_of_notMem
        (fun member => prepared_no_batch count calls _ out prepared _ member rfl)
        (fun member => returned_no_batch count calls _ _ back returned _ member rfl)).mp split
      cases same
      exact ⟨prepared, returned⟩

theorem returned_results (answer : Except Fault (List Reply)) (results : List Reply)
    (back : Journal) (returned : BatchReturn count calls answer (.ok results) back) :
    ∃ replies, answer = .ok replies ∧ replies.length = calls.length ∧
      IncomingAll count calls replies (.ok results) back := by
  cases returned with
  | answered replies _ _ counted incoming => exact ⟨replies, rfl, counted, incoming⟩

theorem incoming_all_at (replies results : List Reply) (back : Journal)
    (incoming : IncomingAll count calls replies (.ok results) back) (index : Nat) (call : Call)
    (reply result : Reply) (asked : calls[index]? = some call)
    (replied : replies[index]? = some reply) (given : results[index]? = some result) :
    ∃ part : Journal, part <:+: back ∧ part.places = replyPlaces 0 count ∧
      Incoming call.method 0 count reply (.ok result) part := by
  have paired : (calls.zip replies)[index]? = some (call, reply) :=
    List.getElem?_zip_eq_some.mpr ⟨asked, replied⟩
  obtain ⟨part, within, own⟩ := each_at _ _ results back incoming index _ result paired given
  exact ⟨part, within, (incoming_done _ 0 count reply result part own).2, own⟩

theorem passage_report (outcome : Except Fault (List Reply)) (journal : Journal)
    (passage : BatchPassage count calls outcome journal) :
    BatchReport count calls outcome journal where
  once := by
    cases passage with
    | refused fault _ prepared =>
        rw [no_batch_places journal (prepared_no_batch count calls _ journal prepared)]
        exact Nat.zero_le 1
    | sent sent answer _ out back prepared returned =>
        have before := no_batch_places out (prepared_no_batch count calls _ out prepared)
        have after := no_batch_places back (returned_no_batch count calls _ _ back returned)
        have single : (Event.sentBatch sent answer).place = .sentBatch := rfl
        have count : (out ++ .sentBatch sent answer :: back : Journal).places.count .sentBatch =
            0 + (0 + 1) := by
          rw [Journal.places] at before after ⊢
          rw [List.map_append, List.map_cons, List.count_append, single, List.count_cons_self,
            before, after]
        exact Nat.le_of_eq count
  prepared early sent answer late split := by
    have prepared := (passage_sent count calls outcome journal passage early late sent _ split).1
    exact ⟨prepared, prepared_places count calls sent early prepared⟩
  miscounted early sent replies late split wrong := by
    have returned := (passage_sent count calls outcome journal passage early late sent _ split).2
    cases returned with
    | miscounted => exact ⟨rfl, rfl⟩
    | answered _ _ _ counted => exact absurd counted wrong
  answered := by
    rintro results rfl
    cases passage with
    | sent sent answer _ out back prepared returned =>
        obtain ⟨replies, rfl, counted, incoming⟩ :=
          returned_results count calls answer results back returned
        refine ⟨out, sent, replies, back, rfl, counted, ?_,
          incoming_all_at count calls replies results back incoming⟩
        rw [each_length _ _ results back incoming, List.length_zip, counted, Nat.min_self]

end Report

end RequestLayer
