import RequestLayer.Proofs.Outcomes
import RequestLayer.Proofs.Session.Basic
import RequestLayer.Settings.Basic

set_option autoImplicit false

namespace RequestLayer

def NameCharacter (c : Char) : Prop :=
  'a' ≤ c ∧ c ≤ 'z' ∨ 'A' ≤ c ∧ c ≤ 'Z' ∨ '0' ≤ c ∧ c ≤ '9' ∨ c = '_'

def NamesMethod (name : String) : Prop :=
  name ≠ "" ∧ (∀ c ∈ name.toList, NameCharacter c) ∧ name.toList.head? ≠ some '_'

theorem name_character_iff (c : Char) :
    (c.isAlphanum || c == '_') = true ↔ NameCharacter c := by
  have alphanumeric : c.isAlphanum =
      ((decide ('A' ≤ c ∧ c ≤ 'Z') || decide ('a' ≤ c) && decide (c ≤ 'z')) ||
        decide ('0' ≤ c) && decide (c ≤ '9')) := rfl
  rw [alphanumeric]
  simp only [NameCharacter, Bool.or_eq_true, Bool.and_eq_true, decide_eq_true_eq, beq_iff_eq]
  grind

theorem method_name_iff (name : String) : isMethodName name = true ↔ NamesMethod name := by
  have blank : name = "" ↔ name.toList = [] := String.toList_eq_nil_iff.symm
  unfold isMethodName NamesMethod
  rw [Ne, blank]
  cases name.toList with
  | nil => simp
  | cons first rest =>
      have each (c : Char) := name_character_iff c
      simp only [Bool.and_eq_true, bne_iff_ne, List.all_eq_true, each]
      simp [and_comm]

namespace Settings

-- What the settings have to be. The capacity counts also if nothing is stored.
structure Valid (settings : Settings) : Prop where
  capacity : settings.cacheCapacity ≠ some 0
  allowed : ∀ name ∈ settings.allowed, NamesMethod name
  cacheable : ∀ names, settings.cacheable = some names → ∀ name ∈ names, NamesMethod name
  attempts : 0 < settings.retry.retries
  backoff : 0 < settings.retry.backoffMilliseconds
  delay : settings.staleAfter ≠ some 0

def plan (settings : Settings) : Retry :=
  ⟨settings.retry.retries, .ofMilliseconds settings.retry.backoffMilliseconds,
    settings.retry.methods.getD Retry.standardMethods⟩

def check (settings : Settings) : Option StaleCheck :=
  settings.staleAfter.map fun seconds => ⟨.ofSeconds seconds, ["eth_getBlockByNumber"]⟩

section Parts

variable (settings : Settings)

theorem require_names_iff (setting : String) (names : List String) :
    requireNames setting names = .ok () ↔ ∀ name ∈ names, NamesMethod name := by
  unfold requireNames
  cases unfit : names.find? fun name => !isMethodName name with
  | some name =>
      have found := List.find?_some unfit
      have member := List.mem_of_find?_eq_some unfit
      simp only [Bool.not_eq_true', ← Bool.not_eq_true, method_name_iff] at found
      exact ⟨nofun, fun all => (found (all name member)).elim⟩
  | none =>
      refine ⟨fun _ name member => ?_, fun _ => rfl⟩
      have fit := List.find?_eq_none.mp unfit name member
      rw [← method_name_iff]
      simpa using fit

theorem units_iff (count unit : Nat) (positive : 0 < unit) :
    (Delay.mk (count * unit)).isZero = true ↔ count = 0 := by
  unfold Delay.isZero
  rw [beq_iff_eq, Nat.mul_eq_zero]
  exact or_iff_left (Nat.ne_of_gt positive)

theorem milliseconds_iff (count : Nat) : (Delay.ofMilliseconds count).isZero = true ↔ count = 0 :=
  units_iff count 1000000 (by decide)

theorem seconds_iff (count : Nat) : (Delay.ofSeconds count).isZero = true ↔ count = 0 :=
  units_iff count 1000000000 (by decide)

theorem retry_plan_iff (plan : Retry) : settings.retryPlan = .ok plan ↔
    0 < settings.retry.retries ∧ 0 < settings.retry.backoffMilliseconds ∧
      plan = settings.plan := by
  unfold retryPlan Retry.create
  by_cases attempts : settings.retry.retries = 0
  · rw [if_pos attempts]
    exact ⟨nofun, fun fit => absurd attempts (Nat.ne_of_gt fit.1)⟩
  rw [if_neg attempts]
  by_cases backoff : (Delay.ofMilliseconds settings.retry.backoffMilliseconds).isZero = true
  · rw [if_pos backoff]
    exact ⟨nofun, fun fit => absurd ((milliseconds_iff _).mp backoff) (Nat.ne_of_gt fit.2.1)⟩
  rw [if_neg backoff]
  constructor
  · rintro ⟨⟩
    exact ⟨Nat.pos_of_ne_zero attempts,
      Nat.pos_of_ne_zero fun zero => backoff ((milliseconds_iff _).mpr zero), rfl⟩
  · rintro ⟨_, _, rfl⟩
    rfl

theorem stale_check_iff (check : Option StaleCheck) : settings.staleCheck = .ok check ↔
    settings.staleAfter ≠ some 0 ∧ check = settings.check := by
  unfold staleCheck Settings.check
  cases settings.staleAfter with
  | none => exact ⟨fun | rfl => ⟨nofun, rfl⟩, fun ⟨_, same⟩ => same ▸ rfl⟩
  | some seconds =>
      rw [Option.mapM_some, Option.map_some]
      unfold StaleCheck.create
      by_cases none : seconds = 0
      · rw [if_pos ((seconds_iff seconds).mpr none)]
        exact ⟨nofun, fun fit => absurd (congrArg some none) fit.1⟩
      · rw [if_neg (mt (seconds_iff seconds).mp none)]
        exact ⟨fun | rfl => ⟨fun same => none (Option.some.inj same), rfl⟩,
          fun ⟨_, same⟩ => same ▸ rfl⟩

theorem capacity_iff (capacity : Option Capacity) : settings.capacity = .ok capacity ↔
    settings.cacheCapacity ≠ some 0 ∧ capacity.map Capacity.size = settings.cacheCapacity := by
  unfold Settings.capacity
  cases settings.cacheCapacity with
  | none =>
      cases capacity with
      | none => exact ⟨fun _ => ⟨nofun, rfl⟩, fun _ => rfl⟩
      | some given => exact ⟨nofun, fun fit => nomatch fit.2⟩
  | some size =>
      cases size with
      | zero => exact ⟨nofun, fun fit => absurd rfl fit.1⟩
      | succ more =>
          change Except.ok (some ⟨more + 1, Nat.succ_pos more⟩) = Except.ok capacity ↔ _
          constructor
          · rintro ⟨⟩
            exact ⟨nofun, rfl⟩
          · rintro ⟨_, same⟩
            obtain ⟨given, rfl, size⟩ := Option.map_eq_some_iff.mp same
            cases given
            cases size
            rfl

theorem discard_ok {α : Type} (action : Except Fault α) (result : PUnit)
    (passed : discard action = .ok result) : ∃ value, action = .ok value := by
  cases action with
  | ok value => exact ⟨value, rfl⟩
  | error fault => cases passed

theorem validate_iff : settings.validate = .ok () ↔ settings.Valid := by
  unfold validate
  by_cases zero : settings.cacheCapacity = some 0
  · rw [if_pos zero]
    exact ⟨nofun, fun valid => (valid.capacity zero).elim⟩
  rw [if_neg zero]
  constructor
  · intro passed
    obtain ⟨_, allowed, passed⟩ := (bind_ok _ _ _).mp passed
    obtain ⟨_, cacheable, passed⟩ := (bind_ok _ _ _).mp passed
    obtain ⟨_, planned, checked⟩ := (bind_ok _ _ _).mp passed
    obtain ⟨plan, planned⟩ := discard_ok _ _ planned
    obtain ⟨check, checked⟩ := discard_ok _ _ checked
    have retry := (settings.retry_plan_iff plan).mp planned
    refine ⟨zero, (require_names_iff _ _).mp allowed, ?_, retry.1, retry.2.1,
      ((settings.stale_check_iff check).mp checked).1⟩
    intro names given
    rw [given] at cacheable
    exact (require_names_iff _ names).mp cacheable
  · intro valid
    have allowed := (require_names_iff "cache_allow_list" settings.allowed).mpr valid.allowed
    have cacheable : requireNames "cacheable_methods" (settings.cacheable.getD []) = .ok () := by
      rw [require_names_iff]
      cases given : settings.cacheable with
      | none => exact nofun
      | some names => exact valid.cacheable names given
    have planned := (settings.retry_plan_iff _).mpr ⟨valid.attempts, valid.backoff, rfl⟩
    have checked := (settings.stale_check_iff _).mpr ⟨valid.delay, rfl⟩
    rw [allowed, cacheable, planned, checked]
    rfl

theorem allow_all (methods : List String) (rule : Freshness.Rule) :
    let allowing := methods.foldl (fun rule method => rule.allow method) rule
    allowing.threshold = rule.threshold ∧ ∀ method, method ∈ allowing.cacheable ↔
      method ∈ rule.cacheable ∨ method ∈ methods := by
  induction methods generalizing rule with
  | nil => exact ⟨rfl, fun method => by simp⟩
  | cons first rest ih =>
      refine ⟨(ih (rule.allow first)).1, fun method => ?_⟩
      rw [List.foldl_cons, (ih (rule.allow first)).2, List.mem_cons, ← or_assoc]
      apply or_congr_left
      exact (NameSet.mem_insert first method rule.cacheable).trans or_comm

theorem rule_threshold : settings.rule.threshold = settings.threshold := by
  unfold rule
  rw [(allow_all _ _).1]
  cases settings.cacheable <;> rfl

theorem rule_cacheable (method : String) : settings.rule.isCacheable method = true ↔
    method ∈ settings.cacheable.getD Freshness.registry ∨ method ∈ settings.allowed := by
  unfold rule Freshness.Rule.isCacheable
  rw [List.contains_iff_mem, (allow_all _ _).2]
  apply or_congr_left
  cases settings.cacheable with
  | none => exact NameSet.mem_ofList _ method
  | some methods => exact NameSet.mem_ofList methods method

end Parts

section Client

variable {ν : Type} (settings : Settings)

def made : InBoth ν (Except Fault (Client ν)) := fun _ _ _ _ => (settings.client (ν := ν)).run

def installed : InBoth ν (Except Fault Caching) := fun _ _ _ _ => (settings.caching (ν := ν)).run

def opened (capacity : Option Capacity) (world : World ν) : Caching × World ν :=
  if settings.cacheEnabled then
    (⟨some world.free, settings.rule⟩, { world with
      stores := world.stores.write world.free (.empty capacity), free := world.free + 1 })
  else (⟨none, settings.rule⟩, world)

def created (caching : Caching) (world : World ν) : Client ν × World ν :=
  let layers := settings.check.map fun check =>
    ⟨staleCheckName, .staleness check (world.free + 1)⟩
  (⟨world.free, some settings.plan, ⟨layers.toList⟩⟩, { world with
    clients := world.clients.write world.free ⟨caching, false⟩
    free := world.free + 1 + layers.toList.length })

def built (capacity : Option Capacity) (world : World ν) : Client ν × World ν :=
  settings.created (settings.opened capacity world).1 (settings.opened capacity world).2

theorem capacity_exists (valid : settings.Valid) : ∃ capacity, settings.capacity = .ok capacity := by
  have positive := valid.capacity
  cases given : settings.cacheCapacity with
  | none => exact ⟨none, (settings.capacity_iff none).mpr ⟨positive, given.symm⟩⟩
  | some size =>
      have bound : 0 < size := by
        rw [given] at positive
        exact Nat.pos_of_ne_zero fun zero => positive (congrArg some zero)
      exact ⟨some ⟨size, bound⟩, (settings.capacity_iff _).mpr ⟨positive, given.symm⟩⟩

variable (mode : Mode) (world : World ν)

theorem installed_run (capacity : Option Capacity) (bounded : settings.capacity = .ok capacity) :
    mode.run settings.installed world =
      (.ok (settings.opened capacity world).1, (settings.opened capacity world).2) := by
  unfold installed caching opened
  rw [bounded]
  cases mode <;> cases settings.cacheEnabled <;> rfl

theorem made_invalid (fault : Fault) (invalid : settings.validate = .error fault) :
    mode.run settings.made world = (.error fault, world) := by
  unfold made client
  rw [invalid]
  cases mode <;> rfl

theorem made_valid (valid : settings.Valid) (capacity : Option Capacity)
    (bounded : settings.capacity = .ok capacity) :
    mode.run settings.made world =
      (.ok (settings.built capacity world).1, (settings.built capacity world).2) := by
  have validated := settings.validate_iff.mpr valid
  have planned := (settings.retry_plan_iff _).mpr ⟨valid.attempts, valid.backoff, rfl⟩
  have checked := (settings.stale_check_iff _).mpr ⟨valid.delay, rfl⟩
  unfold made client caching built opened created
  rw [validated, planned, checked, bounded]
  cases mode <;> cases settings.cacheEnabled <;> cases settings.check <;> rfl

structure Describes (client : Client ν) (after : World ν) : Prop where
  enabled : (after.clients.read client.id).caching.isEnabled = settings.cacheEnabled
  store : ∀ store, (after.clients.read client.id).caching.store = some store →
    store = world.free ∧ ∃ capacity, after.stores.read store = .empty capacity ∧
      capacity.map Capacity.size = settings.cacheCapacity
  threshold : (after.clients.read client.id).caching.rule.threshold = settings.threshold
  cacheable : ∀ method, (after.clients.read client.id).caching.rule.isCacheable method = true ↔
    method ∈ settings.cacheable.getD Freshness.registry ∨ method ∈ settings.allowed
  retry : client.retry = some ⟨settings.retry.retries,
    .ofMilliseconds settings.retry.backoffMilliseconds,
    settings.retry.methods.getD Retry.standardMethods⟩
  layers : match settings.staleAfter with
    | none => client.stack.layers = []
    | some seconds => ∃ memory, client.stack.layers = [⟨"stalecheck",
        .staleness ⟨.ofSeconds seconds, ["eth_getBlockByNumber"]⟩ memory⟩]
  idle : (after.clients.read client.id).building = false

theorem built_describes (capacity : Option Capacity)
    (size : capacity.map Capacity.size = settings.cacheCapacity) :
    settings.Describes world (settings.built capacity world).1 (settings.built capacity world).2 := by
  have state : (settings.built capacity world).2.clients.read (settings.built capacity world).1.id =
      ⟨(settings.opened capacity world).1, false⟩ := by
    change (Slots.write _ _ _).read _ = _
    rw [Slots.read_write]
    exact if_pos rfl
  have rule : (settings.opened capacity world).1.rule = settings.rule := by
    unfold opened
    cases settings.cacheEnabled <;> rfl
  constructor
  case enabled =>
    rw [state]
    unfold opened
    cases settings.cacheEnabled <;> rfl
  case store =>
    rw [state]
    intro store there
    change _ ∧ ∃ capacity, (settings.opened _ world).2.stores.read store = _ ∧ _
    unfold opened at there ⊢
    cases enabled : settings.cacheEnabled with
    | false =>
        rw [enabled] at there
        cases there
    | true =>
        rw [enabled] at there
        cases there
        refine ⟨rfl, capacity, ?_, size⟩
        change (Slots.write _ _ _).read _ = _
        rw [Slots.read_write, if_pos rfl]
  case threshold =>
    rw [state, rule]
    exact settings.rule_threshold
  case cacheable =>
    rw [state, rule]
    exact settings.rule_cacheable
  case retry => rfl
  case layers =>
    unfold built created check
    cases settings.staleAfter with
    | none => rfl
    | some seconds => exact ⟨_, rfl⟩
  case idle => rw [state]

theorem construction_agrees :
    (settings.validate = .ok () ↔ settings.Valid) ∧
    (settings.Valid →
      (∃ plan, settings.retryPlan = .ok plan) ∧ (∃ check, settings.staleCheck = .ok check)) ∧
    ∀ (ν : Type) (mode : Mode) (world : World ν),
      ((∃ client, (mode.run settings.made world).1 = .ok client) ↔ settings.validate = .ok ()) ∧
      (∀ fault, (mode.run settings.made world).1 = .error fault ↔
        settings.validate = .error fault) ∧
      (settings.Valid → (∃ caching, (mode.run settings.installed world).1 = .ok caching) ∧
        ∀ layer : Layer ν, ∃ stack,
          (Stack.add staleCheckName layer).run Stack.empty = (.ok (), stack)) ∧
      ∀ client after, mode.run settings.made world = (.ok client, after) →
        settings.Describes world client after := by
  refine ⟨settings.validate_iff, fun valid => ?_, fun ν mode world => ?_⟩
  · exact ⟨⟨_, (settings.retry_plan_iff _).mpr ⟨valid.attempts, valid.backoff, rfl⟩⟩,
      _, (settings.stale_check_iff _).mpr ⟨valid.delay, rfl⟩⟩
  cases validated : settings.validate with
  | error fault =>
      have invalid : ¬ settings.Valid := by
        intro valid
        rw [settings.validate_iff.mpr valid] at validated
        cases validated
      rw [settings.made_invalid mode world fault validated]
      refine ⟨⟨nofun, nofun⟩, fun other => ?_, fun valid => (invalid valid).elim, nofun⟩
      rw [Except.error.injEq, Except.error.injEq]
  | ok =>
      have valid := settings.validate_iff.mp validated
      obtain ⟨capacity, bounded⟩ := settings.capacity_exists valid
      rw [settings.made_valid mode world valid capacity bounded,
        settings.installed_run mode world capacity bounded]
      refine ⟨⟨fun _ => rfl, fun _ => ⟨_, rfl⟩⟩, fun fault => ⟨nofun, nofun⟩,
        fun _ => ⟨⟨_, rfl⟩, fun layer => ⟨_, rfl⟩⟩, ?_⟩
      rintro client after ⟨⟩
      exact settings.built_describes world capacity ((settings.capacity_iff capacity).mp bounded).2

end Client

end Settings

end RequestLayer
