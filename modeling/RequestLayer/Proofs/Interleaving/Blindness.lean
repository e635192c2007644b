import RequestLayer.Proofs.Interleaving.Requests

set_option autoImplicit false

namespace RequestLayer

namespace Routine

variable {σ τ α β : Type}

-- From states that are alike the routine goes on in one way, to states that are alike, and shows the
-- same.
def Blind (alike : σ → σ → Prop) (shown : σ → σ → List τ) : Routine σ α → Prop
  | .done _ => True
  | .step change next => ∀ one other, alike one other →
      alike (change one) (change other) ∧ shown one (change one) = shown other (change other) ∧
        next one = next other ∧ (next one).Blind alike shown
  | .pause _ next => next.Blind alike shown

def shownThrough (shown : σ → σ → List τ) (routine : Routine σ α) : List σ → List τ
  | [] => []
  | state :: rest =>
      shown state (routine.advance state).2 ++ (routine.advance state).1.shownThrough shown rest

section Blindness

variable (alike : σ → σ → Prop) (shown : σ → σ → List τ)

theorem bind_blind (first : Routine σ α) (next : α → Routine σ β)
    (before : first.Blind alike shown) (after : ∀ value, (next value).Blind alike shown) :
    (first >>= next).Blind alike shown := by
  induction first with
  | done value => exact after value
  | step change rest ih =>
      intro one other same
      obtain ⟨later, shows, further, blind⟩ := before one other same
      exact ⟨later, shows, congrArg (fun routine => routine >>= next) further, ih one blind⟩
  | pause point rest ih => exact ih before

variable (idle : ∀ state, shown state state = [])

include idle

theorem advance_blind (routine : Routine σ α) (blind : routine.Blind alike shown) (one other : σ)
    (same : alike one other) :
    alike (routine.advance one).2 (routine.advance other).2 ∧
      shown one (routine.advance one).2 = shown other (routine.advance other).2 ∧
      (routine.advance one).1 = (routine.advance other).1 ∧
      (routine.advance one).1.Blind alike shown := by
  have nothing : shown one one = shown other other := (idle one).trans (idle other).symm
  cases routine with
  | done result => exact ⟨same, nothing, rfl, trivial⟩
  | step change next => exact blind one other same
  | pause point next => exact ⟨same, nothing, rfl, blind⟩

theorem through_blind (routine : Routine σ α) (blind : routine.Blind alike shown) (ones others : List σ)
    (same : List.Forall₂ alike ones others) :
    routine.through ones = routine.through others ∧
      routine.shownThrough shown ones = routine.shownThrough shown others ∧
      (routine.through ones).Blind alike shown := by
  induction same generalizing routine with
  | nil => exact ⟨rfl, rfl, blind⟩
  | @cons one other ones others first _ ih =>
      obtain ⟨_, shows, further, blind⟩ := advance_blind alike shown idle routine blind one other first
      obtain ⟨left, rest, later⟩ := ih _ blind
      rw [through_cons, through_cons, shownThrough, shownThrough, shows, ← further]
      exact ⟨left, congrArg _ rest, later⟩

end Blindness

end Routine

variable {ν τ : Type}

section Telling

variable (log : ν → List τ)

def World.shown (before after : World ν) : List τ :=
  (log after.outside).drop (log before.outside).length

theorem shown_idle (world : World ν) : world.shown log world = [] := List.drop_length

def Telling {α : Type} (change : ν → α × ν) : Prop :=
  ∀ one other, (change one).1 = (change other).1 ∧
    ∃ told, log (change one).2 = log one ++ told ∧ log (change other).2 = log other ++ told

def Hook.Step.Telling : Hook.Step ν → Prop
  | .outside change => RequestLayer.Telling log change
  | .now => False
  | .wait _ | .send _ | .sendBatch _ => True

-- The hooks of the layer do not look at any state. A stale check looks at the clock.
def Layer.Telling : Layer ν → Prop
  | .passing | .authority | .gas | .fees _ => True
  | .staleness _ _ => False
  | .functions onRequest onReply =>
      (∀ change ∈ onRequest, ∀ call, RequestLayer.Telling log (change call)) ∧
      ∀ change ∈ onReply, ∀ method reply, RequestLayer.Telling log (change method reply)
  | .custom onRequest onReply =>
      (∀ call, (onRequest call).Every (Hook.Step.Telling log)) ∧
      ∀ method reply, (onReply method reply).Every (Hook.Step.Telling log)

structure Member.Telling (member : Member ν) : Prop where
  send : ∀ call, RequestLayer.Telling log (member.node.send call)
  sendBatch : ∀ calls, RequestLayer.Telling log (member.node.sendBatch calls)
  layers : ∀ layer ∈ member.client.stack.items, layer.Telling log

end Telling

-- Worlds that some requests cannot tell apart.
structure Level (store : Nat) (mine : Issued ν → Prop) (one other : World ν) : Prop where
  clients : one.clients = other.clients
  installed : ∀ request, mine request → (one.caching request.member).store = some store
  unbounded : (one.stores.read store).capacity = none ∧ (other.stores.read store).capacity = none
  held : ∀ request, mine request → (one.stores.read store).get? request.fingerprint =
    (other.stores.read store).get? request.fingerprint

section Unseeing

variable (log : ν → List τ) (store : Nat) (mine : Issued ν → Prop)

def Unseeing (α : Type) (routine : Routine (World ν) α) : Prop :=
  routine.Blind (Level store mine) (World.shown log)

theorem unseeing_parallel : Parallel (Having (Unseeing log store mine)) := having_parallel _
  { value := fun _ _ => trivial
    pause := fun _ => trivial
    sequence := fun _ _ first next => Routine.bind_blind _ _ first next }

theorem outside_unseeing {α : Type} (change : ν → α × ν) (telling : Telling log change) :
    Unseeing log store mine α (modifyGetThe (World ν) (World.onOutside change)) := by
  intro one other level
  obtain ⟨result, told, shows, otherShows⟩ := telling one.outside other.outside
  refine ⟨⟨level.clients, level.installed, level.unbounded, level.held⟩, ?_,
    congrArg Routine.done result, trivial⟩
  change List.drop _ (log (change one.outside).2) = List.drop _ (log (change other.outside).2)
  rw [shows, otherShows, List.drop_left, List.drop_left]

theorem sleep_unseeing (delay : Delay) :
    Having (Unseeing log store mine) Unit (World.sleep (ν := ν) delay)
      (World.sleep (ν := ν) delay) := by
  refine ⟨rfl, ?_⟩
  intro one other level
  refine ⟨⟨level.clients, level.installed, level.unbounded, level.held⟩, ?_, rfl, trivial⟩
  exact (shown_idle log one).trans (shown_idle log other).symm

theorem layer_unseeing (layer : Layer ν) (telling : layer.Telling log) :
    (layer.hooks : Hooks (Routine (World ν))).Alike (Having (Unseeing log store mine))
      layer.hooks := by
  apply (unseeing_parallel log store mine).layer_agree
  cases layer with
  | staleness check memory => exact telling.elim
  | functions onRequest onReply =>
      exact ⟨fun change given call =>
          ⟨rfl, outside_unseeing log store mine _ (telling.1 change given call)⟩,
        fun change given method reply =>
          ⟨rfl, outside_unseeing log store mine _ (telling.2 change given method reply)⟩⟩
  | custom onRequest onReply =>
      have each (step : Hook.Step ν) (telling : step.Telling log) :
          step.StateAlike (Having (Unseeing log store mine)) := by
        cases step with
        | outside change => exact ⟨rfl, outside_unseeing log store mine change telling⟩
        | now => exact telling.elim
        | wait delay => exact sleep_unseeing log store mine delay
        | send | sendBatch => trivial
      exact ⟨fun call => Hook.every_mono _ _ each _ (telling.1 call),
        fun method reply => Hook.every_mono _ _ each _ (telling.2 method reply)⟩
  | _ => trivial

theorem client_unseeing (member : Member ν) (telling : member.Telling log) :
    member.client.Alike (Having (Unseeing log store mine)) member.node member.client
      member.node where
  id := rfl
  retry := rfl
  channel := ⟨fun call => ⟨rfl, outside_unseeing log store mine _ (telling.send call)⟩,
    fun calls => ⟨rfl, outside_unseeing log store mine _ (telling.sendBatch calls)⟩⟩
  stack := (unseeing_parallel log store mine).stack_agrees member.client.stack.items _ _
    fun layer present => layer_unseeing log store mine layer (telling.layers layer present)

theorem level_caching (one other : World ν) (level : Level store mine one other)
    (member : Member ν) : one.caching member = other.caching member := by
  rw [World.caching, level.clients]
  rfl

theorem stored_level (one other : World ν) (level : Level store mine one other)
    (fingerprint : Fingerprint) (value : Json) :
    Level store mine (one.stored store fingerprint value) (other.stored store fingerprint value) := by
  obtain ⟨unbounded, otherUnbounded⟩ := level.unbounded
  refine ⟨level.clients, level.installed, ?_, ?_⟩
  · rw [stored_read, stored_read, if_pos rfl, if_pos rfl, Store.insert_capacity,
      Store.insert_capacity]
    exact level.unbounded
  · intro asked own
    rw [stored_read, stored_read, if_pos rfl, if_pos rfl,
      Store.get_insert_unbounded _ _ _ _ unbounded,
      Store.get_insert_unbounded _ _ _ _ otherUnbounded, level.held asked own]

theorem reading_unseeing {α : Type} (next : World ν → Routine (World ν) α)
    (same : ∀ one other, Level store mine one other → next one = next other)
    (blind : ∀ one other, Level store mine one other → Unseeing log store mine α (next one)) :
    Unseeing log store mine α (.step id next) := by
  intro one other level
  refine ⟨level, ?_, same one other level, blind one other level⟩
  exact (shown_idle log one).trans (shown_idle log other).symm

section Requests

variable (request : Issued ν) (telling : request.member.Telling log)

include telling

theorem chain_unseeing : Unseeing log store mine _ request.chain := by
  have parallel := unseeing_parallel log store mine
  exact (parallel.resolve_agree _ _ _ _ (sleep_unseeing log store mine)
    (client_unseeing log store mine request.member telling) request.call).2

theorem allows_unseeing (rule : Freshness.Rule) (result : Option Json) :
    Unseeing log store mine Bool
      (rule.allows (m := Routine (World ν)) (request.member.client.channel request.member.node)
        request.call result) := by
  have parallel := unseeing_parallel log store mine
  have channels := parallel.client_channel_agree _ _ _ _ (sleep_unseeing log store mine)
    (client_unseeing log store mine request.member telling)
  exact (parallel.allows_agree _ _ channels rule request.call result).2

theorem storing_unseeing (caching : Caching) (installed : caching.store = some store)
    (result : Json) : Unseeing log store mine _ (request.storing caching result) := by
  rw [Issued.storing, Caching.keep_eq, installed, bind_assoc]
  apply Routine.bind_blind _ _ _ _ (allows_unseeing log store mine request telling caching.rule _)
  intro allowed
  cases allowed with
  | false => trivial
  | true =>
      intro one other level
      refine ⟨stored_level store mine one other level _ result, ?_, rfl, trivial⟩
      exact (shown_idle log one).trans (shown_idle log other).symm

variable (own : mine request)

include own

theorem missing_unseeing : Unseeing log store mine _ request.missing := by
  apply Routine.bind_blind _ _ _ _ (chain_unseeing log store mine request telling)
  intro outcome
  cases outcome with
  | error fault => trivial
  | ok result =>
      apply reading_unseeing
      · intro one other level
        rw [level_caching store mine one other level]
      · intro one other level
        exact storing_unseeing log store mine request telling _ (level.installed request own) result

theorem looking_unseeing : Unseeing log store mine _ (request.looking store) := by
  have missing := missing_unseeing log store mine request telling own
  apply reading_unseeing
  · intro one other level
    rw [level.held request own]
  · intro one other level
    cases (one.stores.read store).get? request.fingerprint with
    | some response => trivial
    | none => exact missing

theorem request_unseeing : Unseeing log store mine _ request.routine := by
  rw [routine_parts]
  apply reading_unseeing
  · intro one other level
    rw [level_caching store mine one other level]
  · intro one other level
    by_cases listed : (one.caching request.member).rule.isCacheable request.call.method
    · rw [starting_looking request one store ⟨level.installed request own, listed⟩]
      exact looking_unseeing log store mine request telling own
    · rw [starting_apart request one fun _ uses => listed uses.listed]
      exact chain_unseeing log store mine request telling

end Requests

end Unseeing

end RequestLayer
