import RequestLayer.Proofs.Journal.Basic
import RequestLayer.Proofs.Modes.Copies
import RequestLayer.Proofs.Retry.Coverage

set_option autoImplicit false

namespace RequestLayer.Retry

section Journals

variable {α : Type}

def inTransport : Except Fault α → Bool
  | .error fault => fault.isTransport
  | .ok _ => false

-- At most `limit` attempts, each the same event but for its outcome. Only a transport fault is followed
-- by another attempt, and the last attempt ends in one only if it is the last that there may be.
structure Attempted (limit : Nat) (backoff : Delay) (event : Except Fault α → Event)
    (failures : List Fault) (outcome : Except Fault α) (journal : Journal) : Prop where
  transport : ∀ fault ∈ failures, fault.isTransport = true
  within : failures.length + 1 ≤ limit
  final : failures.length + 1 < limit → inTransport outcome = false
  entries : journal =
    ((failures.map Except.error ++ [outcome]).map event).intersperse (.slept backoff)

def Settles (event : Except Fault α → Event) (journal : Journal) : Prop :=
  ∀ before outcome after, journal = before ++ event outcome :: after →
    inTransport outcome = false → after = []

variable (backoff : Delay) (event : Except Fault α → Event)

theorem attempted_last (limit : Nat) (outcome : Except Fault α)
    (last : inTransport outcome = false ∨ limit = 0) :
    Attempted (limit + 1) backoff event [] outcome [event outcome] := by
  refine ⟨nofun, Nat.le_add_left 1 limit, ?_, rfl⟩
  intro more
  exact last.resolve_right (Nat.ne_of_gt (Nat.lt_of_succ_lt_succ more))

theorem entries_cons (fault : Fault) (failures : List Fault) (outcome : Except Fault α) :
    (((fault :: failures).map Except.error ++ [outcome]).map event).intersperse (.slept backoff) =
      event (.error fault) :: .slept backoff ::
        ((failures.map Except.error ++ [outcome]).map event).intersperse (.slept backoff) := by
  cases failures <;> rfl

theorem attempted_again (limit : Nat) (fault : Fault) (failures : List Fault)
    (outcome : Except Fault α) (journal : Journal) (failed : fault.isTransport = true)
    (rest : Attempted limit backoff event failures outcome journal) :
    Attempted (limit + 1) backoff event (fault :: failures) outcome
      (event (.error fault) :: .slept backoff :: journal) := by
  refine ⟨List.forall_mem_cons.mpr ⟨failed, rest.transport⟩, Nat.succ_le_succ rest.within, ?_, ?_⟩
  · exact fun more => rest.final (Nat.lt_of_succ_lt_succ more)
  · rw [rest.entries, entries_cons]

theorem entries_settle (injective : Function.Injective event)
    (apart : ∀ outcome, event outcome ≠ .slept backoff) (failures : List Fault)
    (transport : ∀ fault ∈ failures, fault.isTransport = true) (outcome : Except Fault α) :
    Settles event
      (((failures.map Except.error ++ [outcome]).map event).intersperse (.slept backoff)) := by
  induction failures with
  | nil =>
      intro before ended after same _
      cases before with
      | nil => exact (List.cons_eq_cons.mp same).2.symm
      | cons first rest => cases rest <;> cases (List.cons_eq_cons.mp same).2
  | cons fault failures ih =>
      intro before ended after same settled
      rw [entries_cons] at same
      obtain ⟨failed, others⟩ := List.forall_mem_cons.mp transport
      match before with
      | [] =>
          obtain rfl := injective (List.cons_eq_cons.mp same).1
          exact absurd failed (Bool.eq_false_iff.mp settled)
      | [_] =>
          have slept := (List.cons_eq_cons.mp (List.cons_eq_cons.mp same).2).1
          exact absurd slept.symm (apart ended)
      | _ :: _ :: before =>
          have later := (List.cons_eq_cons.mp (List.cons_eq_cons.mp same).2).2
          exact ih others before ended after later settled

end Journals

section Loop

variable {m : Type → Type} [Monad m] [LawfulMonad m] [Await m] {α : Type}

theorem wait_records (backoff : Delay) (sleep : Delay → m Unit) (noted : Journaled m α) (plain : m α)
    (describes : α → Journal → Prop) (rest : Records noted plain describes) :
    Records (do await .delay; notingDelays sleep backoff; noted)
      (do await .delay; sleep backoff; plain) fun outcome late =>
        ∃ journal, late = .slept backoff :: journal ∧ describes outcome journal := by
  apply bind_records _ _ _ _ _ (fun _ outcome late =>
    ∃ journal, late = .slept backoff :: journal ∧ describes outcome journal) _ (pause_records .delay)
  · intro _
    apply bind_records _ _ _ _ _ (fun _ => describes) _
      (step_records (sleep backoff) fun _ => .slept backoff) fun _ => rest
    rintro _ _ outcome journal rfl described
    exact ⟨journal, rfl, described⟩
  · rintro _ _ outcome late rfl described
    exact described

-- By induction on the attempts that are left: an attempt settles the matter or stands before a delay
-- and the entries of the rest.
theorem repeated_records (backoff : Delay) (event : Except Fault α → Event)
    (sleep : Delay → m Unit) (action : ExceptT Fault m α) (more : Nat) :
    Records (repeated (notingDelays sleep backoff) (noting event action) more).run
      (repeated (sleep backoff) action more).run fun outcome journal =>
        ∃ failures, Attempted (more + 1) backoff event failures outcome journal := by
  induction more with
  | zero =>
      rw [repeated_zero, repeated_zero]
      apply records_mono _ _ _ _ (step_records action.run event)
      rintro outcome journal rfl
      exact ⟨[], attempted_last backoff event 0 outcome (.inr rfl)⟩
  | succ more ih =>
      rw [repeated_succ, repeated_succ]
      apply bind_records _ _ _ _ _ (fun early outcome late =>
        inTransport early = false ∧ outcome = early ∧ late = [] ∨
        ∃ fault journal, early = .error fault ∧ fault.isTransport = true ∧
          late = .slept backoff :: journal ∧
          ∃ failures, Attempted (more + 1) backoff event failures outcome journal) _
        (step_records action.run event)
      · intro early
        cases early with
        | ok value => exact pure_records _ _ (.inl ⟨rfl, rfl, rfl⟩)
        | error fault =>
            dsimp only
            cases failed : fault.isTransport with
            | false => exact pure_records _ _ (.inl ⟨failed, rfl, rfl⟩)
            | true =>
                apply records_mono _ _ _ _ (wait_records backoff sleep _ _ _ ih)
                rintro outcome late ⟨journal, same, rest⟩
                exact .inr ⟨fault, journal, rfl, failed, same, rest⟩
      · rintro early _ outcome late rfl
          (⟨settled, rfl, rfl⟩ | ⟨fault, journal, rfl, failed, rfl, failures, rest⟩)
        · exact ⟨[], attempted_last backoff event (more + 1) _ (.inl settled)⟩
        · exact ⟨fault :: failures,
            attempted_again backoff event (more + 1) fault failures outcome journal failed rest⟩

def following (count : UInt32) : Option UInt32 :=
  if count.toNat + 1 < UInt32.size then some (count + 1) else none

theorem following_below (count limit : UInt32) (below : count < limit) :
    ∃ next, following count = some next ∧ next.toNat = count.toNat + 1 := by
  have bound : count.toNat + 1 < UInt32.size :=
    Nat.lt_of_le_of_lt below limit.toNat_lt_size
  refine ⟨count + 1, if_pos bound, ?_⟩
  rw [UInt32.toNat_add]
  exact Nat.mod_eq_of_lt bound

-- The same attempts with such a counter. There is no result if it overflows.
def counted (sleep : m Unit) (action : ExceptT Fault m α) (attempts attempt : UInt32) :
    m (Option (Except Fault α)) := do
  match ← action.run with
  | .error fault =>
      if _again : fault.isTransport ∧ attempt < attempts then
        await .delay
        sleep
        match _next : following attempt with
        | some next => counted sleep action attempts next
        | none => return none
      else return some (.error fault)
  | .ok value => return some (.ok value)
termination_by attempts.toNat - attempt.toNat
decreasing_by
  obtain ⟨_, follows, increased⟩ := following_below attempt attempts _again.2
  obtain rfl := Option.some.inj (_next.symm.trans follows)
  have below : attempt.toNat < attempts.toNat := _again.2
  omega

theorem counted_repeated (sleep : m Unit) (action : ExceptT Fault m α) (attempts attempt : UInt32) :
    counted sleep action attempts attempt =
      some <$> (repeated sleep action (attempts.toNat - attempt.toNat)).run := by
  generalize remaining : attempts.toNat - attempt.toNat = more
  induction more generalizing attempt with
  | zero =>
      have done : ¬ attempt < attempts := Nat.not_lt_of_le (Nat.le_of_sub_eq_zero remaining)
      rw [counted, repeated_zero, ← bind_pure_comp]
      apply bind_congr
      rintro (fault | value)
      · exact dif_neg fun again => done again.2
      · rfl
  | succ more ih =>
      have below : attempt < attempts := Nat.lt_of_sub_eq_succ remaining
      obtain ⟨next, follows, increased⟩ := following_below attempt attempts below
      rw [counted, repeated_succ, ExceptT.run_mk, map_bind]
      apply bind_congr
      rintro (fault | value)
      · dsimp only
        cases failed : fault.isTransport with
        | false =>
            rw [dif_neg fun again => Bool.false_ne_true again.1, if_neg Bool.false_ne_true, map_pure]
        | true =>
            rw [dif_pos ⟨rfl, below⟩, if_pos rfl]
            simp only [map_bind]
            apply bind_congr
            intro _
            apply bind_congr
            intro _
            split
            · rename_i other follows'
              obtain rfl := Option.some.inj (follows.symm.trans follows')
              exact ih next (by omega)
            · rename_i overflow
              cases follows.symm.trans overflow
      · exact (map_pure _ _).symm

end Loop

section Channels

inductive Accepted : Retry → UInt32 → Prop
  | standard : Accepted standard 5
  | created (attempts : UInt32) (backoff : Delay) (methods : List String) (retry : Retry)
      (made : create attempts.toNat backoff methods = .ok retry) : Accepted retry attempts

theorem accepted_attempts (retry : Retry) (attempts : UInt32) (accepted : Accepted retry attempts) :
    retry.attempts = attempts.toNat ∧ 0 < attempts.toNat := by
  cases accepted with
  | standard => exact ⟨rfl, by decide⟩
  | created _ backoff methods _ made =>
      unfold create at made
      split at made
      · cases made
      · rename_i positive
        split at made
        · cases made
        · cases made
          exact ⟨rfl, Nat.pos_of_ne_zero positive⟩

variable {m : Type → Type} [Monad m] [LawfulMonad m] [Await m] {α : Type}

-- A retried action with at most `limit` attempts, beside the same one with a journal.
structure Retried (limit : UInt32) (backoff : Delay) (event : Except Fault α → Event)
    (sleep : m Unit) (action retried : ExceptT Fault m α)
    (noted : ExceptT Fault (Journaled m) α) : Prop where
  records : Records noted.run retried.run fun outcome journal => Settles event journal ∧
    ∃ failures, Attempted limit.toNat backoff event failures outcome journal
  counts : counted sleep action limit 1 = some <$> retried.run

def ceiling (attempts : UInt32) (allowed : Bool) : UInt32 := if allowed then attempts else 1

theorem attempts_word (retry : Retry) (attempts : UInt32) (accepted : Accepted retry attempts)
    (allowed : Bool) : retry.attemptsFor allowed = (ceiling attempts allowed).toNat ∧
      0 < (ceiling attempts allowed).toNat := by
  cases allowed with
  | false => exact ⟨rfl, Nat.one_pos⟩
  | true => exact accepted_attempts retry attempts accepted

theorem repeated_retried (retry : Retry) (attempts : UInt32) (accepted : Accepted retry attempts)
    (allowed : Bool) (event : Except Fault α → Event) (injective : Function.Injective event)
    (apart : ∀ outcome, event outcome ≠ .slept retry.backoff) (sleep : Delay → m Unit)
    (action : ExceptT Fault m α) :
    Retried (ceiling attempts allowed) retry.backoff event (sleep retry.backoff) action
      (repeated (sleep retry.backoff) action (retry.attemptsFor allowed - 1))
      (repeated (notingDelays sleep retry.backoff) (noting event action)
        (retry.attemptsFor allowed - 1)) := by
  obtain ⟨same, positive⟩ := attempts_word retry attempts accepted allowed
  rw [same]
  constructor
  · apply records_mono _ _ _ _ (repeated_records retry.backoff event sleep action _)
    rintro outcome journal ⟨failures, attempted⟩
    rw [Nat.sub_add_cancel positive] at attempted
    refine ⟨?_, failures, attempted⟩
    rw [attempted.entries]
    exact entries_settle retry.backoff event injective apart failures attempted.transport outcome
  · exact counted_repeated (sleep retry.backoff) action _ 1

theorem attempted_once (backoff : Delay) (event : Except Fault α → Event) (failures : List Fault)
    (outcome : Except Fault α) (journal : Journal)
    (attempted : Attempted 1 backoff event failures outcome journal) : journal = [event outcome] := by
  obtain rfl := List.length_eq_zero_iff.mp (Nat.le_zero.mp (Nat.le_of_succ_le_succ attempted.within))
  exact attempted.entries

-- What is allowed; that calls and batches are attempted again as far as that goes, and no further; and
-- that a batch with one call that is not allowed is sent once.
theorem channel_attempts (retry : Retry) (attempts : UInt32) (accepted : Accepted retry attempts)
    (sleep : Delay → m Unit) (inner : Channel m) :
    (∀ method, retry.covers method = true ↔ ∃ listed ∈ retry.methods, Allows listed method) ∧
    (∀ calls, retry.coversAll calls = true ↔
      calls ≠ [] ∧ ∀ call ∈ calls, retry.covers call.method = true) ∧
    (∀ call, Retried (ceiling attempts (retry.covers call.method)) retry.backoff (.sent call)
      (sleep retry.backoff) (inner.send call) ((retry.channel sleep inner).send call)
      ((retry.channel (notingDelays sleep) inner.journaled).send call)) ∧
    (∀ calls, Retried (ceiling attempts (retry.coversAll calls)) retry.backoff (.sentBatch calls)
      (sleep retry.backoff) (inner.sendBatch calls) ((retry.channel sleep inner).sendBatch calls)
      ((retry.channel (notingDelays sleep) inner.journaled).sendBatch calls)) ∧
    ∀ calls call, call ∈ calls → retry.covers call.method = false →
      Records ((retry.channel (notingDelays sleep) inner.journaled).sendBatch calls).run
        ((retry.channel sleep inner).sendBatch calls).run
        fun outcome journal => journal = [.sentBatch calls outcome] := by
  have batches (calls : List Call) :=
    repeated_retried retry attempts accepted (retry.coversAll calls) (.sentBatch calls)
      (fun _ _ alike => (Event.sentBatch.inj alike).2) (fun _ => nofun) sleep (inner.sendBatch calls)
  refine ⟨covers_iff retry, covers_all_iff retry, ?_, batches, ?_⟩
  · intro call
    exact repeated_retried retry attempts accepted (retry.covers call.method) (.sent call)
      (fun _ _ alike => (Event.sent.inj alike).2) (fun _ => nofun) sleep (inner.send call)
  · intro calls call member uncovered
    apply records_mono _ _ _ _ (batches calls).records
    rintro outcome journal ⟨_, failures, attempted⟩
    rw [uncovered_batch retry calls call member uncovered] at attempted
    exact attempted_once retry.backoff (.sentBatch calls) failures outcome journal attempted

def lateChannel : Channel (StateM Nat) where
  send call := ExceptT.mk fun count =>
    (if count = 0 then .error (.transport call.method "refused")
      else .ok (.success (.string call.method)), count + 1)
  sendBatch calls := ExceptT.mk fun count =>
    (.ok (calls.map fun call => .success (.string call.method)), count + 1)

theorem channel_attempts_late :
    Accepted ⟨3, ⟨125⟩, ["net"]⟩ 3 ∧ ∃ journal failures,
      Attempted 3 ⟨125⟩ (.sent ⟨"net_version", []⟩) failures
        (.ok (.success (.string "net_version"))) journal ∧
      journal.length = 3 ∧
      ((channel ⟨3, ⟨125⟩, ["net"]⟩ (notingDelays fun _ => pure ()) lateChannel.journaled).send
        ⟨"net_version", []⟩).run [] 0 =
          ((.ok (.success (.string "net_version")), journal), 2) := by
  have accepted : Accepted ⟨3, ⟨125⟩, ["net"]⟩ 3 := .created 3 ⟨125⟩ ["net"] _ rfl
  obtain ⟨journal, ⟨_, failures, attempted⟩, run⟩ := records_blocking _ _ _
    ((channel_attempts _ 3 accepted (fun _ => pure ()) lateChannel).2.2.1 ⟨"net_version", []⟩).records
    [] 0
  exact ⟨accepted, journal, failures, attempted, (congrArg (fun done => done.1.2.length) run).symm, run⟩

end Channels

end RequestLayer.Retry
