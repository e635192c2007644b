import RequestLayer.Proofs.Interleaving.Routines
import RequestLayer.Proofs.Session.Survival

set_option autoImplicit false

namespace RequestLayer

variable {ν : Type}

-- A request of a client, issued in a context. A blocking one has the same transitions and passes its
-- pauses at once.
structure Issued (ν : Type) where
  member : Member ν
  context : Context
  call : Call

namespace Issued

variable (request : Issued ν)

def routine : Routine (World ν) (Except Fault Json) :=
  (request.member.client.request request.member.node request.context request.call).run

def fingerprint : Fingerprint :=
  .ofCall request.context request.call.method request.call.params

def chain : Routine (World ν) (Except Fault Json) :=
  (request.member.client.resolve request.member.node request.call).run

def storing (caching : Caching) (result : Json) : Routine (World ν) (Except Fault Json) := do
  caching.keep (ν := ν) (request.member.client.channel request.member.node) request.fingerprint
    request.call result
  return .ok result

def missing : Routine (World ν) (Except Fault Json) := do
  match ← request.chain with
  | .ok result => .step id fun world => request.storing (world.caching request.member) result
  | .error fault => .done (.error fault)

def looking (store : Nat) : Routine (World ν) (Except Fault Json) :=
  .step id fun world =>
    match (world.stores.read store).get? request.fingerprint with
    | some response => .done (.ok response)
    | none => request.missing

def starting (caching : Caching) : Routine (World ν) (Except Fault Json) :=
  match caching.store with
  | some store =>
      if caching.rule.isCacheable request.call.method then request.looking store else request.chain
  | none => request.chain

end Issued

theorem reading_bind {α β : Type} (read : World ν → α)
    (next : α → ExceptT Fault (Routine (World ν)) β) :
    (reading read >>= next).run = .step id fun world => (next (read world)).run := rfl

theorem lifted_bind {α β : Type} (action : Routine (World ν) α)
    (next : α → ExceptT Fault (Routine (World ν)) β) :
    (ExceptT.lift action >>= next).run = action >>= fun value => (next value).run := by
  simp

section Requests

variable (request : Issued ν)

theorem missing_parts :
    (do
      let result ← request.member.client.resolve request.member.node request.call
      let caching ← request.member.client.caching
      caching.keep (ν := ν) (m := Routine (World ν))
        (request.member.client.channel request.member.node) request.fingerprint request.call result
      return result : ExceptT Fault (Routine (World ν)) Json).run = request.missing := by
  rw [ExceptT.run_bind]
  unfold Issued.missing Issued.chain
  congr 1
  funext outcome
  cases outcome with
  | error fault => rfl
  | ok result =>
      dsimp only
      rw [caching_reading, reading_bind]
      congr 1
      funext world
      exact lifted_bind _ _

theorem looking_parts (caching : Caching) (store : Nat) (installed : caching.store = some store) :
    (do
      match ← caching.find? (ν := ν) request.fingerprint with
      | some response => return response
      | none =>
          let result ← request.member.client.resolve request.member.node request.call
          let caching ← request.member.client.caching
          caching.keep (ν := ν) (m := Routine (World ν))
            (request.member.client.channel request.member.node) request.fingerprint request.call
            result
          return result : ExceptT Fault (Routine (World ν)) Json).run = request.looking store := by
  rw [find_reading caching store installed, reading_bind, Issued.looking]
  congr 1
  funext world
  cases (world.stores.read store).get? request.fingerprint with
  | some response => rfl
  | none => exact missing_parts request

theorem routine_parts :
    request.routine = .step id fun world => request.starting (world.caching request.member) := by
  rw [Issued.routine, Client.request_eq, caching_reading, reading_bind]
  congr 1
  funext world
  unfold Issued.starting Caching.fingerprint? Caching.isEnabled
  cases installed : (world.caching request.member).store with
  | none => rfl
  | some store =>
      cases listed : (world.caching request.member).rule.isCacheable request.call.method with
      | false => rfl
      | true => exact looking_parts request _ store installed

theorem starting_looking (world : World ν) (store : Nat)
    (uses : Uses world request.member store request.call) :
    request.starting (world.caching request.member) = request.looking store := by
  unfold Issued.starting
  rw [uses.installed]
  exact if_pos uses.listed

theorem starting_apart (world : World ν)
    (apart : ∀ store, ¬ Uses world request.member store request.call) :
    request.starting (world.caching request.member) = request.chain := by
  unfold Issued.starting
  cases installed : (world.caching request.member).store with
  | none => rfl
  | some store => exact if_neg fun listed => apart store ⟨installed, listed⟩

theorem chain_quiet : Quiet ν _ request.chain := by
  rw [Quiet, Issued.chain, Client.resolve_eq, ExceptT.run_bind]
  apply Routine.bind_within
  · exact execute_quiet request.member.client request.member.node request.call
  · intro outcome
    cases outcome <;> trivial

def World.SameClients (before after : World ν) : Prop := after.clients = before.clients

theorem quiet_keeps {α : Type} (routine : Routine (World ν) α) (quiet : Quiet ν α routine) :
    routine.Within World.SameClients :=
  Routine.within_mono _ _ (fun _ _ untouched => untouched.clients) routine quiet

theorem storing_keeps (caching : Caching) (result : Json) :
    (request.storing caching result).Within World.SameClients := by
  rw [Issued.storing, Caching.keep_eq, bind_assoc]
  apply Routine.bind_within
  · exact quiet_keeps _
      (allows_quiet request.member.client request.member.node caching.rule request.call _)
  · intro allowed
    cases allowed with
    | false => trivial
    | true =>
        cases caching.store with
        | none => trivial
        | some store => exact fun _ => ⟨rfl, trivial⟩

theorem missing_keeps : request.missing.Within World.SameClients := by
  apply Routine.bind_within _ _ _ (quiet_keeps _ (chain_quiet request))
  intro outcome
  cases outcome with
  | error fault => trivial
  | ok result => exact fun world => ⟨rfl, storing_keeps request _ result⟩

theorem looking_keeps (store : Nat) : (request.looking store).Within World.SameClients := by
  refine fun world => ⟨rfl, ?_⟩
  dsimp only
  cases (world.stores.read store).get? request.fingerprint with
  | some response => trivial
  | none => exact missing_keeps request

theorem request_keeps : request.routine.Within World.SameClients := by
  rw [routine_parts]
  intro world
  refine ⟨rfl, ?_⟩
  change (request.starting (world.caching request.member)).Within World.SameClients
  unfold Issued.starting
  cases (world.caching request.member).store with
  | none => exact quiet_keeps _ (chain_quiet request)
  | some store =>
      dsimp only
      by_cases listed : (world.caching request.member).rule.isCacheable request.call.method
      · rw [if_pos listed]
        exact looking_keeps request store
      · rw [if_neg listed]
        exact quiet_keeps _ (chain_quiet request)

def Issued.Stores (store : Nat) (outcome : Except Fault Json) (before after : World ν) : Prop :=
  ∃ value, outcome = .ok value ∧ after = before.stored store request.fingerprint value

def Issued.Concludes (store : Nat) (routine : Routine (World ν) (Except Fault Json)) : Prop :=
  routine.Concludes (fun world => (world.caching request.member).store = some store)
    World.Untouched (request.Stores store)

theorem storing_concludes (caching : Caching) (store : Nat) (installed : caching.store = some store)
    (result : Json) : request.Concludes store (request.storing caching result) := by
  rw [Issued.storing, Caching.keep_eq, installed, bind_assoc]
  apply Routine.bind_concludes
  · exact allows_quiet request.member.client request.member.node caching.rule request.call _
  · intro allowed
    cases allowed with
    | false => trivial
    | true =>
        intro world _
        exact .inr ⟨.ok result, rfl, result, rfl, rfl⟩

theorem missing_concludes (store : Nat) : request.Concludes store request.missing := by
  apply Routine.bind_concludes _ _ _ _ _ (chain_quiet request)
  intro outcome
  cases outcome with
  | error fault => trivial
  | ok result =>
      intro world installed
      exact .inl ⟨.refl world, storing_concludes request _ store installed result⟩

theorem looking_concludes (store : Nat) : request.Concludes store (request.looking store) := by
  intro world _
  refine .inl ⟨.refl world, ?_⟩
  dsimp only
  cases (world.stores.read store).get? request.fingerprint with
  | some response => trivial
  | none => exact missing_concludes request store

theorem request_concludes (store : Nat) : request.Concludes store request.routine := by
  rw [routine_parts]
  intro world installed
  refine .inl ⟨.refl world, ?_⟩
  dsimp only
  by_cases listed : (world.caching request.member).rule.isCacheable request.call.method
  · rw [starting_looking request world store ⟨installed, listed⟩]
    exact looking_concludes request store
  · rw [starting_apart request world fun other uses => listed uses.listed]
    exact Routine.within_concludes _ _ _ _ (chain_quiet request)

inductive Answered (value : Json) : List (World ν) → Prop where
  | apart (first : World ν) (rest : List (World ν))
      (unlooked : ∀ store, ¬ Uses first request.member store request.call)
      (resolved : request.chain.through rest = .done (.ok value)) :
      Answered value (first :: rest)
  | missed (first second : World ν) (early late : List (World ν)) (store : Nat)
      (uses : Uses first request.member store request.call)
      (absent : (second.stores.read store).get? request.fingerprint = none)
      (resolved : request.chain.through early = .done (.ok value)) :
      Answered value (first :: second :: early ++ late)
  | held (first second : World ν) (rest : List (World ν)) (store : Nat)
      (uses : Uses first request.member store request.call)
      (present : (second.stores.read store).get? request.fingerprint = some value) :
      Answered value (first :: second :: rest)

def Issued.Resolves (value : Json) (found : List (World ν)) : Prop :=
  ∃ looked chain rest, found = looked ++ chain ++ rest ∧ looked.length ≤ 2 ∧
    request.chain.through chain = .done (.ok value)

theorem storing_ends (caching : Caching) (result value : Json) (found : List (World ν))
    (ended : (request.storing caching result).through found = .done (.ok value)) :
    result = value := by
  obtain ⟨_, late, _, _, _, after⟩ := Routine.bind_through _ _ found _ ended
  have last := (Routine.through_done (Except.ok result) late).symm.trans after
  cases last
  rfl

theorem missing_ends (value : Json) (found : List (World ν))
    (ended : request.missing.through found = .done (.ok value)) :
    ∃ early late, found = early ++ late ∧ request.chain.through early = .done (.ok value) := by
  obtain ⟨early, late, outcome, split, before, after⟩ := Routine.bind_through _ _ found _ ended
  refine ⟨early, late, split, ?_⟩
  cases outcome with
  | error fault =>
      have last := (Routine.through_done _ late).symm.trans after
      cases last
  | ok result =>
      cases late with
      | nil => cases after
      | cons world rest =>
          obtain rfl := storing_ends request _ result value rest after
          exact before

theorem request_answered (found : List (World ν)) (value : Json)
    (ended : request.routine.through found = .done (.ok value)) : Answered request value found := by
  rw [routine_parts] at ended
  cases found with
  | nil => cases ended
  | cons first rest =>
      change (request.starting (first.caching request.member)).through rest = _ at ended
      by_cases apart : ∀ store, ¬ Uses first request.member store request.call
      · rw [starting_apart request first apart] at ended
        exact .apart first rest apart ended
      · obtain ⟨store, uses⟩ := not_forall_not.mp apart
        rw [starting_looking request first store uses] at ended
        cases rest with
        | nil => cases ended
        | cons second rest =>
            rw [Issued.looking, Routine.through_cons] at ended
            dsimp only [Routine.advance] at ended
            cases held : (second.stores.read store).get? request.fingerprint with
            | some response =>
                rw [held] at ended
                have last := (Routine.through_done _ rest).symm.trans ended
                cases last
                exact .held first second rest store uses held
            | none =>
                rw [held] at ended
                obtain ⟨early, late, rfl, resolved⟩ := missing_ends request value rest ended
                exact .missed first second early late store uses held resolved

end Requests

end RequestLayer
