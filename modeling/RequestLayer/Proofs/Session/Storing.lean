import RequestLayer.Proofs.Session.Requests

set_option autoImplicit false

namespace RequestLayer

variable {ν : Type}

-- Everything that has to come together for a move to store a result.
inductive Keeps (before : World ν) (member : Member ν) :
    Move ν → Nat → Fingerprint → Json → Prop where
  | request (context : Context) (call : Call) (store : Nat) (reply : Reply) (result : Json)
      (later : World ν)
      (installed : (before.caching member).store = some store)
      (listed : (before.caching member).rule.isCacheable call.method)
      (missed : (before.stores.read store).get? (.ofCall context call.method call.params) = none)
      (passed : member.passed call before = (.ok reply, later))
      (sound : reply.error = none)
      (given : reply.result = some result)
      (present : result ≠ .null)
      (stillListed : (later.caching member).rule.isCacheable call.method)
      (allowed : (member.allows (later.caching member).rule call result later).1) :
      Keeps before member (.act (.request context call)) store
        (.ofCall context call.method call.params) result

theorem keeps_installed (before : World ν) (member : Member ν) (move : Move ν) (store : Nat)
    (fingerprint : Fingerprint) (result : Json)
    (keeps : Keeps before member move store fingerprint result) :
    (before.caching member).store = some store := by
  cases keeps with
  | request _ _ _ _ _ _ installed => exact installed

inductive Requested (before : World ν) (member : Member ν) (context : Context) (call : Call) :
    Except Fault Json → World ν → Prop where
  | found (store : Nat) (response : Json)
      (installed : (before.caching member).store = some store)
      (listed : (before.caching member).rule.isCacheable call.method)
      (held : (before.stores.read store).get? (.ofCall context call.method call.params) =
        some response) :
      Requested before member context call (.ok response) before
  | stored (store : Nat) (result : Json) (judged : World ν)
      (keeps : Keeps before member (.act (.request context call)) store
        (.ofCall context call.method call.params) result)
      (resolved : (member.resolved call before).1 = .ok result)
      (untouched : before.Untouched judged) :
      Requested before member context call (.ok result)
        (judged.stored store (.ofCall context call.method call.params) result)
  | unstored (after : World ν) (untouched : before.Untouched after) :
      Requested before member context call (member.resolved call before).1 after

theorem outcome_present (reply : Reply) (result : Json) (outcome : reply.outcome = .ok result)
    (present : result ≠ .null) : reply.error = none ∧ reply.result = some result := by
  unfold Reply.outcome at outcome
  cases error : reply.error with
  | some error =>
      rw [error] at outcome
      cases outcome
  | none =>
      rw [error] at outcome
      have same : reply.result.getD .null = result := Except.ok.inj outcome
      cases value : reply.result with
      | none =>
          rw [value] at same
          exact (present same.symm).elim
      | some value =>
          rw [value] at same
          exact ⟨rfl, congrArg some same⟩

theorem resolved_passed (member : Member ν) (call : Call) (before later : World ν) (result : Json)
    (resolved : member.resolved call before = (.ok result, later)) :
    ∃ reply, member.passed call before = (.ok reply, later) ∧ reply.outcome = .ok result := by
  change ((member.passed call before).1.bind Reply.outcome, (member.passed call before).2) = _
    at resolved
  cases passed : member.passed call before with
  | mk outcome world =>
      rw [passed] at resolved
      obtain ⟨same, rfl⟩ := Prod.mk.inj resolved
      cases outcome with
      | error fault => cases same
      | ok reply => exact ⟨reply, rfl, same⟩

theorem passed_resolved (member : Member ν) (call : Call) (before later : World ν) (reply : Reply)
    (result : Json) (passed : member.passed call before = (.ok reply, later))
    (sound : reply.error = none) (given : reply.result = some result) :
    reply.outcome = .ok result ∧ member.resolved call before = (.ok result, later) := by
  have outcome : reply.outcome = .ok result := by
    simp only [Reply.outcome, sound, given, Option.getD_some]
  refine ⟨outcome, ?_⟩
  change ((member.passed call before).1.bind Reply.outcome, (member.passed call before).2) = _
  rw [passed]
  exact congrArg (·, later) outcome

theorem finished_requested (before : World ν) (member : Member ν) (context : Context)
    (call : Call) (store : Nat)
    (installed : (before.caching member).store = some store)
    (listed : (before.caching member).rule.isCacheable call.method)
    (missed : (before.stores.read store).get? (.ofCall context call.method call.params) = none) :
    let (outcome, after) := member.finished store (.ofCall context call.method call.params) call
      (member.resolved call before)
    Requested before member context call outcome after := by
  have known := member.resolved_untouched call before
  have unstored (after : World ν) (untouched : before.Untouched after) :
      Requested before member context call (member.resolved call before).1 after :=
    .unstored after untouched
  cases resolved : member.resolved call before with
  | mk outcome later =>
      rw [resolved] at known unstored
      cases outcome with
      | error fault => exact unstored later known
      | ok result =>
          have asked := member.allows_untouched call later (later.caching member).rule result
          have judged := known.trans _ _ _ asked
          by_cases allowed : (member.allows (later.caching member).rule call result later).1
          · obtain ⟨reply, passed, outcome⟩ :=
              resolved_passed member call before later result resolved
            obtain ⟨stillListed, present⟩ := member.allows_needs call later _ result allowed
            obtain ⟨sound, given⟩ := outcome_present reply result outcome present
            have keeps := Keeps.request context call store reply result later installed listed missed
              passed sound given present stillListed allowed
            have stored := Requested.stored store result _ keeps (by rw [resolved]) judged
            simpa only [Member.finished, if_pos allowed] using stored
          · simpa only [Member.finished, if_neg allowed] using unstored _ judged

theorem request_requested (before : World ν) (member : Member ν) (context : Context)
    (call : Call) :
    ∃ outcome after, member.request context call before = (outcome, after) ∧
      Requested before member context call outcome after := by
  rcases member.looks_up_or_not context call before with apart | ⟨store, installed, listed⟩
  · exact ⟨_, _, member.request_apart context call before apart,
      .unstored _ (member.resolved_untouched call before)⟩
  · cases held : (before.stores.read store).get? (.ofCall context call.method call.params) with
    | some response =>
        exact ⟨_, _, member.request_found context call before store installed listed response held,
          .found store response installed listed held⟩
    | none =>
        exact ⟨_, _, member.request_missed context call before store installed listed held,
          finished_requested before member context call store installed listed held⟩

theorem keeps_request (before : World ν) (member : Member ν) (context : Context) (call : Call)
    (store : Nat) (fingerprint : Fingerprint) (result : Json)
    (keeps : Keeps before member (.act (.request context call)) store fingerprint result) :
    ∃ judged, before.Untouched judged ∧
      member.request context call before = (.ok result, judged.stored store fingerprint result) := by
  cases keeps with
  | request _ _ _ reply _ later installed listed missed passed sound given _ _ allowed =>
      have known := member.resolved_untouched call before
      have resolved := (passed_resolved member call before later reply result passed sound given).2
      rw [resolved] at known
      have asked := member.allows_untouched call later (later.caching member).rule result
      refine ⟨_, known.trans _ _ _ asked, ?_⟩
      rw [member.request_missed context call before store installed listed missed, resolved]
      simp only [Member.finished, if_pos allowed]

theorem stored_read (world : World ν) (store other : Nat) (fingerprint : Fingerprint)
    (result : Json) :
    (world.stored store fingerprint result).stores.read other =
      if other = store then ((world.stores.read store).insert fingerprint result).1
      else world.stores.read other :=
  Slots.read_write world.stores store other _

theorem execute_run (member : Member ν) (batch : Batch) (world : World ν) :
    member.executeBatch batch world =
      let sent := member.requestBatch batch.calls world
      (sent.1, { sent.2 with
        clients := sent.2.clients.write member.client.id
          { sent.2.clients.read member.client.id with building := false } }) := by
  rw [member.execute_batch_blocking, member.request_batch_blocking]
  rfl

theorem perform_unstored (member : Member ν) (action : Action) (world : World ν)
    (nothing : ∀ store fingerprint result,
      ¬ Keeps world member (.act action) store fingerprint result) :
    (member.perform action world).2.stores = world.stores := by
  cases action with
  | request context call =>
      change (member.request context call world).2.stores = _
      obtain ⟨outcome, after, run, requested⟩ := request_requested world member context call
      rw [run]
      cases requested with
      | found store response installed listed held => rfl
      | stored store result judged keeps resolved untouched =>
          exact (nothing store _ result keeps).elim
      | unstored after untouched => exact untouched.stores
  | batch calls => exact (member.request_batch_untouched world calls).stores
  | execute batch =>
      change (member.executeBatch batch world).2.stores = _
      rw [execute_run]
      exact (member.request_batch_untouched world batch.calls).stores
  | allow method => rfl
  | disallow method => rfl
  | setCacheable methods => rfl
  | setThreshold threshold => rfl

theorem keeps_moved (session : Session ν) (index : Nat) (member : Member ν) (move : Move ν)
    (store : Nat) (fingerprint : Fingerprint) (result : Json)
    (keeps : Keeps session.world member move store fingerprint result) :
    ∃ judged, session.world.Untouched judged ∧
      session.moved index member move =
        (.single (.ok result), { session with world := judged.stored store fingerprint result }) := by
  have known := keeps
  cases keeps with
  | request context call =>
      obtain ⟨judged, untouched, requested⟩ :=
        keeps_request session.world member context call store _ result known
      refine ⟨judged, untouched, ?_⟩
      change (Outcome.single (member.request context call session.world).1,
        { session with world := (member.request context call session.world).2 }) = _
      rw [requested]

theorem moved_unstored (session : Session ν) (index : Nat) (member : Member ν) (move : Move ν)
    (nothing : ∀ store fingerprint result,
      ¬ Keeps session.world member move store fingerprint result) :
    (session.moved index member move).2.world.stores = session.world.stores := by
  cases move with
  | edit change => rfl
  | act action => exact perform_unstored member action session.world nothing

theorem kept_stores (session : Session ν) (index : Nat) (member : Member ν) (move : Move ν)
    (store : Nat) (fingerprint : Fingerprint) (result : Json)
    (named : session.members[index]? = some member)
    (keeps : Keeps session.world member move store fingerprint result) :
    (session.step index move).1 = .single (.ok result) ∧
      ∀ other, (session.step index move).2.world.stores.read other =
        if other = store then ((session.world.stores.read store).insert fingerprint result).1
        else session.world.stores.read other := by
  obtain ⟨judged, untouched, moved⟩ :=
    keeps_moved session index member move store fingerprint result keeps
  unfold Session.step
  rw [named]
  change (session.moved index member move).1 = _ ∧
    ∀ other, (session.moved index member move).2.world.stores.read other = _
  rw [moved]
  refine ⟨rfl, fun other => ?_⟩
  rw [stored_read, untouched.stores]

theorem unkept_stores (session : Session ν) (index : Nat) (move : Move ν)
    (nothing : ∀ member store fingerprint result, session.members[index]? = some member →
      ¬ Keeps session.world member move store fingerprint result) :
    (session.step index move).2.world.stores = session.world.stores := by
  unfold Session.step
  cases named : session.members[index]? with
  | none => rfl
  | some member =>
      exact moved_unstored session index member move fun store fingerprint result =>
        nothing member store fingerprint result named

end RequestLayer
