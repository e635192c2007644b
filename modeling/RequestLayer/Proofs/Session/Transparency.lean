import RequestLayer.Proofs.Session.Purity
import RequestLayer.Proofs.Store.Insertion

set_option autoImplicit false

namespace RequestLayer

variable {ν : Type}

inductive Use where
  | act (action : Action)
  | clear

namespace Member

def use (member : Member ν) (store : Nat) : Use → StateM (World ν) Outcome
  | .act action => member.perform action
  | .clear => modifyGet fun world => (.done, world.cleared store)

def useAll (member : Member ν) (store : Nat) (uses : List Use) :
    StateM (World ν) (List Outcome) :=
  uses.mapM (member.use store)

end Member

def Apart (uses : List Use) : Prop :=
  ∀ context call, .act (.request context call) ∈ uses →
    ∀ other otherCall, .act (.request other otherCall) ∈ uses →
      Fingerprint.ofCall context call.method call.params =
        .ofCall other otherCall.method otherCall.params →
      context = other ∧ call = otherCall

structure Twins (cached plain : Member ν) : Prop where
  node : plain.node = cached.node
  retry : plain.client.retry = cached.client.retry
  stack : plain.client.stack = cached.client.stack

-- Whatever is stored is the answer to one of the requests, in any world.
def Faithful (cached : Member ν) (uses : List Use) (responses : ResponseStore) : Prop :=
  ∀ key value, responses.get? key = some value →
    ∃ context call, .act (.request context call) ∈ uses ∧
      key = .ofCall context call.method call.params ∧
      ∀ any, (cached.resolved call any).1 = .ok value

theorem twins_resolved (cached plain : Member ν) (twins : Twins cached plain) (call : Call) :
    plain.resolved call = cached.resolved call := by
  unfold Member.resolved
  rw [Member.passed_blocking, Member.passed_blocking]
  unfold Client.channel
  rw [twins.node, twins.retry, twins.stack]

theorem twins_batch (cached plain : Member ν) (twins : Twins cached plain) (calls : List Call) :
    plain.requestBatch calls = cached.requestBatch calls := by
  rw [Member.request_batch_blocking, Member.request_batch_blocking]
  rw [Client.request_batch_eq, Client.request_batch_eq]
  unfold Client.channel
  rw [twins.node, twins.retry, twins.stack]

theorem batch_outcome (cached plain : Member ν) (pure : cached.Pure) (twins : Twins cached plain)
    (calls : List Call) (world other : World ν) :
    (cached.requestBatch calls world).1 = (plain.requestBatch calls other).1 := by
  rw [twins_batch cached plain twins]
  exact cached.request_batch_steady pure calls world other

theorem plain_request (plain : Member ν) (context : Context) (call : Call) (world : World ν)
    (disabled : (world.caching plain).store = none) :
    plain.request context call world = plain.resolved call world := by
  apply plain.request_apart
  unfold Caching.fingerprint? Caching.isEnabled
  rw [disabled]
  rfl

section Installed

variable (member : Member ν) (world : World ν)

theorem untouched_caching (after : World ν) (untouched : world.Untouched after) :
    after.caching member = world.caching member := by
  unfold World.caching
  rw [untouched.clients]

theorem rule_installed (change : Freshness.Rule → Freshness.Rule) :
    ((member.changeRule change world).2.caching member).store = (world.caching member).store := by
  change ((world.clients.write member.client.id _).read member.client.id).caching.store = _
  rw [Slots.read_write, if_pos rfl]
  rfl

theorem execute_installed (batch : Batch) :
    ((member.executeBatch batch world).2.caching member).store =
      (world.caching member).store := by
  have same := untouched_caching member world _ (member.request_batch_untouched world batch.calls)
  rw [execute_run, ← same]
  dsimp only [World.caching]
  rw [Slots.read_write, if_pos rfl]

theorem request_installed (context : Context) (call : Call) :
    ((member.request context call world).2.caching member).store =
      (world.caching member).store := by
  obtain ⟨outcome, after, run, requested⟩ := request_requested world member context call
  rw [run]
  cases requested with
  | found store response installed listed held => rfl
  | stored store result judged keeps resolved untouched =>
      exact congrArg Caching.store (untouched_caching member world judged untouched)
  | unstored after untouched =>
      exact congrArg Caching.store (untouched_caching member world after untouched)

theorem perform_installed (action : Action) :
    ((member.perform action world).2.caching member).store = (world.caching member).store := by
  cases action with
  | request context call => exact request_installed member world context call
  | batch calls =>
      exact congrArg Caching.store
        (untouched_caching member world _ (member.request_batch_untouched world calls))
  | execute batch => exact execute_installed member world batch
  | allow method => exact rule_installed member world (·.allow method)
  | disallow method => exact rule_installed member world (·.disallow method)
  | setCacheable methods => exact rule_installed member world (·.setCacheable methods)
  | setThreshold threshold => exact rule_installed member world ({ · with threshold })

theorem use_installed (store : Nat) (use : Use) :
    ((member.use store use world).2.caching member).store = (world.caching member).store := by
  cases use with
  | act action => exact perform_installed member world action
  | clear => rfl

end Installed

section Runs

variable (cached plain : Member ν) (pure : cached.Pure) (twins : Twins cached plain)
  (uses : List Use) (apart : Apart uses) (store : Nat)

theorem insert_faithful (responses : ResponseStore) (faithful : Faithful cached uses responses)
    (context : Context) (call : Call) (asked : .act (.request context call) ∈ uses) (result : Json)
    (answered : ∀ any, (cached.resolved call any).1 = .ok result) :
    Faithful cached uses
      (responses.insert (.ofCall context call.method call.params) result).1 := by
  intro key value present
  rcases Store.get_insert _ _ _ _ _ present with ⟨rfl, rfl⟩ | ⟨_, old⟩
  · exact ⟨context, call, asked, rfl, answered⟩
  · exact faithful key value old

theorem empty_faithful (capacity : Option Capacity) :
    Faithful cached uses (.empty capacity) := by
  intro key value present
  cases present

include pure apart in
theorem request_faithful (world : World ν) (installed : (world.caching cached).store = some store)
    (faithful : Faithful cached uses (world.stores.read store)) (context : Context) (call : Call)
    (asked : .act (.request context call) ∈ uses) :
    (∀ any, (cached.request context call world).1 = (cached.resolved call any).1) ∧
      Faithful cached uses ((cached.request context call world).2.stores.read store) := by
  obtain ⟨outcome, after, run, requested⟩ := request_requested world cached context call
  rw [run]
  cases requested with
  | found own response ownInstalled listed held =>
      obtain rfl : own = store := Option.some.inj (ownInstalled.symm.trans installed)
      obtain ⟨other, otherCall, otherAsked, same, answered⟩ := faithful _ _ held
      obtain ⟨_, rfl⟩ := apart context call asked other otherCall otherAsked same
      exact ⟨fun any => (answered any).symm, faithful⟩
  | stored own result judged keeps resolved untouched =>
      have ownInstalled := keeps_installed world cached _ own _ result keeps
      obtain rfl : own = store := Option.some.inj (ownInstalled.symm.trans installed)
      have answered (any : World ν) : (cached.resolved call any).1 = .ok result :=
        (cached.resolved_steady pure call any world).trans resolved
      refine ⟨fun any => (answered any).symm, ?_⟩
      rw [stored_read, if_pos rfl, untouched.stores]
      exact insert_faithful cached uses _ faithful context call asked result answered
  | unstored after untouched =>
      refine ⟨fun any => cached.resolved_steady pure call world any, ?_⟩
      rw [untouched.stores]
      exact faithful

include pure twins apart in
theorem use_faithful (world other : World ν)
    (installed : (world.caching cached).store = some store)
    (disabled : (other.caching plain).store = none)
    (faithful : Faithful cached uses (world.stores.read store)) (use : Use) (member : use ∈ uses) :
    (cached.use store use world).1 = (plain.use store use other).1 ∧
      Faithful cached uses ((cached.use store use world).2.stores.read store) := by
  cases use with
  | clear =>
      refine ⟨rfl, ?_⟩
      change Faithful cached uses ((world.stores.write store _).read store)
      rw [Slots.read_write, if_pos rfl]
      exact empty_faithful cached uses _
  | act action =>
      cases action with
      | request context call =>
          have requested := request_faithful cached pure uses apart store world installed faithful
            context call member
          refine ⟨?_, requested.2⟩
          change Outcome.single (cached.request context call world).1 =
            .single (plain.request context call other).1
          rw [plain_request plain context call other disabled,
            twins_resolved cached plain twins, requested.1 other]
      | batch calls =>
          have same := batch_outcome cached plain pure twins calls world other
          refine ⟨congrArg Outcome.several same, ?_⟩
          change Faithful cached uses ((cached.requestBatch calls world).2.stores.read store)
          rw [(cached.request_batch_untouched world calls).stores]
          exact faithful
      | execute batch =>
          have same : (cached.executeBatch batch world).1 = (plain.executeBatch batch other).1 := by
            rw [execute_run, execute_run]
            exact batch_outcome cached plain pure twins batch.calls world other
          refine ⟨congrArg Outcome.several same, ?_⟩
          change Faithful cached uses ((cached.executeBatch batch world).2.stores.read store)
          rw [execute_run]
          change Faithful cached uses ((cached.requestBatch batch.calls world).2.stores.read store)
          rw [(cached.request_batch_untouched world batch.calls).stores]
          exact faithful
      | allow method => exact ⟨rfl, faithful⟩
      | disallow method => exact ⟨rfl, faithful⟩
      | setCacheable methods => exact ⟨rfl, faithful⟩
      | setThreshold threshold => exact ⟨rfl, faithful⟩

theorem use_all_cons (member : Member ν) (use : Use) (rest : List Use) (world : World ν) :
    member.useAll store (use :: rest) world =
      let (outcome, later) := member.use store use world
      let (outcomes, last) := member.useAll store rest later
      (outcome :: outcomes, last) := by
  unfold Member.useAll
  rw [List.mapM_cons]
  rfl

include pure twins apart in
theorem run_faithful (rest : List Use) (within : ∀ use ∈ rest, use ∈ uses) (world other : World ν)
    (installed : (world.caching cached).store = some store)
    (disabled : (other.caching plain).store = none)
    (faithful : Faithful cached uses (world.stores.read store)) :
    (cached.useAll store rest world).1 = (plain.useAll store rest other).1 ∧
      Faithful cached uses ((cached.useAll store rest world).2.stores.read store) := by
  induction rest generalizing world other with
  | nil => exact ⟨rfl, faithful⟩
  | cons use rest ih =>
      obtain ⟨same, kept⟩ := use_faithful cached plain pure twins uses apart store world other
        installed disabled faithful use (within use List.mem_cons_self)
      have later := ih (fun next member => within next (List.mem_cons_of_mem _ member))
        (cached.use store use world).2 (plain.use store use other).2
        ((use_installed cached world store use).trans installed)
        ((use_installed plain other store use).trans disabled) kept
      rw [use_all_cons, use_all_cons]
      exact ⟨congrArg₂ List.cons same later.1, later.2⟩

end Runs

-- The outcomes are those of the client that stores nothing. After any number of uses each entry is
-- what that client would answer to the request that the entry's key stands for.
theorem uses_transparent (cached plain : Member ν) (pure : cached.Pure)
    (twins : Twins cached plain) (uses : List Use) (apart : Apart uses) (store : Nat)
    (capacity : Option Capacity) (world other : World ν)
    (installed : (world.caching cached).store = some store)
    (empty : world.stores.read store = .empty capacity)
    (disabled : (other.caching plain).store = none) :
    (cached.useAll store uses world).1 = (plain.useAll store uses other).1 ∧
      ∀ count, ∀ entry ∈
          ((cached.useAll store (uses.take count) world).2.stores.read store).items,
        ∃ context call, .act (.request context call) ∈ uses.take count ∧
          entry.1 = .ofCall context call.method call.params ∧
          ∀ elsewhere : World ν, (elsewhere.caching plain).store = none →
            (plain.request context call elsewhere).1 = .ok entry.2 := by
  have start (some : List Use) : Faithful cached some (world.stores.read store) := by
    rw [empty]
    exact empty_faithful cached some capacity
  constructor
  · exact (run_faithful cached plain pure twins uses apart store uses (fun _ member => member)
      world other installed disabled (start uses)).1
  · intro count entry stored
    have part (use : Use) (member : use ∈ uses.take count) : use ∈ uses :=
      List.mem_of_mem_take member
    have partly : Apart (uses.take count) := fun context call asked other otherCall otherAsked =>
      apart context call (part _ asked) other otherCall (part _ otherAsked)
    have faithful := (run_faithful cached plain pure twins (uses.take count) partly store
      (uses.take count) (fun _ member => member) world other installed disabled (start _)).2
    obtain ⟨context, call, asked, same, answered⟩ :=
      faithful entry.1 entry.2 (Store.mem_items _ _ _ stored)
    refine ⟨context, call, asked, same, fun elsewhere off => ?_⟩
    rw [plain_request plain context call elsewhere off, twins_resolved cached plain twins]
    exact answered elsewhere

def counting : Node Nat where
  send call count := (.ok (.success (.string call.method)), count + 1)
  sendBatch calls count := (.ok (calls.map fun call => .success (.string call.method)), count + 1)

def counted (mode : Mode) : Member Nat :=
  let layers := [⟨"count", .functions (some fun call count => (.ok call.params, count + 1)) none⟩,
    ⟨"authority", .authority⟩]
  ⟨mode, counting, ⟨1, some .standard, ⟨layers⟩⟩⟩

def countedWorld (caching : Caching) : World Nat :=
  let create : StateM (World Nat) (Client Nat) := do
    let _ ← World.openStore (ν := Nat) (some ⟨1, Nat.one_pos⟩)
    Client.create caching (some .standard)
  (create (World.start 0 (.still 0))).2

def twoCallers : List Use :=
  let chain : Call := ⟨"eth_chainId", []⟩
  [.act (.request (.caller "a") chain), .act (.batch [chain]), .act (.request (.caller "b") chain),
    .act (.disallow "eth_chainId"), .act (.request (.caller "a") chain), .clear,
    .act (.allow "eth_chainId"), .act (.request (.caller "a") chain)]

theorem two_callers_differ : Fingerprint.ofCall (.caller "a") "eth_chainId" [] ≠
    .ofCall (.caller "b") "eth_chainId" [] := by decide +kernel

theorem two_callers_apart : Apart twoCallers := by
  have differ := two_callers_differ
  intro context call asked other otherCall otherAsked same
  have named (one : Context) (given : Call) (member : .act (.request one given) ∈ twoCallers) :
      (one = .caller "a" ∨ one = .caller "b") ∧ given = ⟨"eth_chainId", []⟩ := by
    simp [twoCallers] at member
    grind
  obtain ⟨rfl | rfl, rfl⟩ := named context call asked
  all_goals obtain ⟨rfl | rfl, rfl⟩ := named other otherCall otherAsked
  · exact ⟨rfl, rfl⟩
  · exact (differ same).elim
  · exact (differ same.symm).elim
  · exact ⟨rfl, rfl⟩

theorem counted_pure (mode : Mode) : (counted mode).Pure := by
  constructor
  · exact ⟨fun _ _ _ => rfl, fun _ _ _ => rfl⟩
  · intro layer member
    simp only [counted, Stack.items, List.map_cons, List.map_nil, List.mem_cons,
      List.not_mem_nil, or_false] at member
    rcases member with rfl | rfl
    · exact ⟨by rintro change ⟨rfl⟩ call one other; rfl, by rintro change ⟨⟩⟩
    · trivial

theorem uses_transparent_two_callers :
    ((counted .suspendable).useAll 0 twoCallers (countedWorld (.enabled 0 none))).1 =
      ((counted .blocking).useAll 0 twoCallers (countedWorld (.disabled none))).1 :=
  (uses_transparent (counted .suspendable) (counted .blocking) (counted_pure .suspendable)
    ⟨rfl, rfl, rfl⟩ twoCallers two_callers_apart 0 (some ⟨1, Nat.one_pos⟩)
    (countedWorld (.enabled 0 none)) (countedWorld (.disabled none)) rfl rfl rfl).1

end RequestLayer
