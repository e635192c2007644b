import RequestLayer.Proofs.Frame.Requests
import RequestLayer.Proofs.Freshness.Verdicts
import RequestLayer.Proofs.Session.Basic

set_option autoImplicit false

namespace RequestLayer

variable {ν : Type}

def World.caching (world : World ν) (member : Member ν) : Caching :=
  (world.clients.read member.client.id).caching

def World.stored (world : World ν) (store : Nat) (fingerprint : Fingerprint) (response : Json) :
    World ν :=
  { world with
    stores := world.stores.write store ((world.stores.read store).insert fingerprint response).1 }

namespace Member

variable (member : Member ν)

def resolved (call : Call) : StateM (World ν) (Except Fault Json) :=
  (fun outcome => outcome.bind Reply.outcome) <$> member.passed call

theorem resolve_blocking (call : Call) :
    (member.client.resolve member.node call).run = member.resolved call := by
  unfold resolved
  rw [Client.resolve_eq, passed_blocking, ExceptT.run_bind, ← bind_pure_comp]
  congr 1
  funext outcome
  cases outcome <;> rfl

variable (context : Context) (call : Call) (world : World ν)

theorem looks_up_or_not :
    (world.caching member).fingerprint? context call = none ∨
      ∃ store, (world.caching member).store = some store ∧
        (world.caching member).rule.isCacheable call.method := by
  unfold Caching.fingerprint? Caching.isEnabled
  cases installed : (world.caching member).store with
  | none => exact .inl rfl
  | some store =>
      cases listed : (world.caching member).rule.isCacheable call.method with
      | false => exact .inl rfl
      | true => exact .inr ⟨store, rfl, rfl⟩

theorem read_bind {α β : Type} (read : World ν → α)
    (next : α → ExceptT Fault (StateM (World ν)) β) (world : World ν) :
    ((ExceptT.mk fun world => (.ok (read world), world)) >>= next).run world =
      (next (read world)).run world := rfl

theorem caching_read :
    (member.client.caching : ExceptT Fault (StateM (World ν)) Caching) =
      ExceptT.mk fun world => (.ok (world.caching member), world) := rfl

theorem find_read (caching : Caching) (store : Nat) (kept : caching.store = some store)
    (fingerprint : Fingerprint) :
    (caching.find? (ν := ν) fingerprint : ExceptT Fault (StateM (World ν)) (Option Json)) =
      ExceptT.mk fun world => (.ok ((world.stores.read store).get? fingerprint), world) := by
  unfold Caching.find?
  rw [kept]
  rfl

theorem request_apart
    (apart : (world.caching member).fingerprint? context call = none) :
    member.request context call world = member.resolved call world := by
  rw [request_blocking, ← resolve_blocking, Client.request_eq, caching_read, read_bind, apart]

theorem passed_untouched : world.Untouched (member.passed call world).2 := by
  rw [passed_blocking, ← client_execute_alone]
  exact run_untouched _ (execute_quiet member.client member.node call) world

theorem resolved_untouched : world.Untouched (member.resolved call world).2 :=
  passed_untouched member call world

theorem allows_untouched (rule : Freshness.Rule) (result : Json) :
    world.Untouched (member.allows rule call result world).2 := by
  rw [allows_blocking, ← client_allows_alone]
  exact run_untouched _ (allows_quiet member.client member.node rule call (some result)) world

theorem request_batch_untouched (calls : List Call) :
    world.Untouched (member.requestBatch calls world).2 := by
  rw [request_batch_blocking, ← request_batch_alone]
  exact run_untouched _ (request_batch_quiet member.client member.node calls) world

theorem allows_needs (rule : Freshness.Rule) (result : Json)
    (allowed : (member.allows rule call result world).1 = true) :
    rule.isCacheable call.method ∧ result ≠ .null := by
  rw [allows_blocking, Freshness.Rule.allows_eq] at allowed
  have refused (settled : rule.verdict call (some result) = .settled false) : False := by
    rw [settled] at allowed
    cases allowed
  constructor
  · by_cases listed : call.method ∈ rule.cacheable
    · simpa [Freshness.Rule.isCacheable] using listed
    · exact (refused (Freshness.verdict_not_cacheable rule call _ listed)).elim
  · intro null
    exact refused (Freshness.verdict_no_result rule call _ (.inr (congrArg some null)))

theorem keep_run (caching : Caching) (store : Nat) (kept : caching.store = some store)
    (fingerprint : Fingerprint) (result : Json) :
    (caching.keep (ν := ν) (member.client.channel member.node) fingerprint call result :
        StateM (World ν) Unit) world =
      let judged := member.allows caching.rule call result world
      ((), if judged.1 then judged.2.stored store fingerprint result else judged.2) := by
  rw [Caching.keep_eq, ← allows_blocking, kept]
  change (match member.allows caching.rule call result world with
    | (allowed, judged) =>
        (if allowed then discard (World.writeStore (ν := ν) store fingerprint result) else pure () :
          StateM (World ν) Unit) judged) = _
  cases member.allows caching.rule call result world with
  | mk allowed judged => cases allowed <;> rfl

def finish (fingerprint : Fingerprint) (call : Call) :
    Except Fault Json → StateM (World ν) (Except Fault Json)
  | .ok result => do
      let caching := (← getThe (World ν)).caching member
      caching.keep (ν := ν) (member.client.channel member.node) fingerprint call result
      return .ok result
  | .error fault => return .error fault

def finished (store : Nat) (fingerprint : Fingerprint) (call : Call) :
    Except Fault Json × World ν → Except Fault Json × World ν
  | (.ok result, later) =>
      let judged := member.allows (later.caching member).rule call result later
      (.ok result, if judged.1 then judged.2.stored store fingerprint result else judged.2)
  | (.error fault, later) => (.error fault, later)

variable (store : Nat) (installed : (world.caching member).store = some store)
  (listed : (world.caching member).rule.isCacheable call.method)

include installed listed

theorem looks_up :
    (world.caching member).fingerprint? context call =
      some (.ofCall context call.method call.params) := by
  unfold Caching.fingerprint? Caching.isEnabled
  rw [installed, listed]
  rfl

theorem request_looked :
    member.request context call world =
      match (world.stores.read store).get? (.ofCall context call.method call.params) with
      | some response => (.ok response, world)
      | none =>
          (member.resolved call >>=
            member.finish (.ofCall context call.method call.params) call) world := by
  have looked := looks_up member context call world store installed listed
  rw [request_blocking, ← resolve_blocking, Client.request_eq, caching_read, read_bind, looked]
  dsimp only
  rw [find_read _ store installed, read_bind]
  cases (world.stores.read store).get? (.ofCall context call.method call.params) with
  | some response => rfl
  | none =>
      apply congrFun (a := world)
      rw [ExceptT.run_bind]
      congr 1
      funext outcome
      cases outcome <;> rfl

theorem request_found (response : Json)
    (found : (world.stores.read store).get? (.ofCall context call.method call.params) =
      some response) :
    member.request context call world = (.ok response, world) := by
  rw [request_looked member context call world store installed listed, found]

-- The caching in force when the result is there is the one of the lookup.
theorem request_missed
    (missed : (world.stores.read store).get? (.ofCall context call.method call.params) = none) :
    member.request context call world =
      member.finished store (.ofCall context call.method call.params) call
        (member.resolved call world) := by
  have same : (member.resolved call world).2.caching member = world.caching member := by
    rw [World.caching, (resolved_untouched member call world).clients]
    rfl
  rw [request_looked member context call world store installed listed, missed]
  change member.finish (.ofCall context call.method call.params) call (member.resolved call world).1
    (member.resolved call world).2 = _
  cases resolved : member.resolved call world with
  | mk outcome later =>
      cases outcome with
      | error fault => rfl
      | ok result =>
          rw [resolved] at same
          unfold finish finished
          change (_, ((later.caching member).keep (ν := ν) (m := StateM (World ν))
            (member.client.channel member.node) _ call result later).2) = _
          rw [keep_run member call later _ store (same ▸ installed)]

end Member

end RequestLayer
