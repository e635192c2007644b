import Mathlib.Data.List.Forall2
import RequestLayer.Proofs.Interleaving.Blindness
import RequestLayer.Proofs.Watch.Basic

set_option autoImplicit false

namespace RequestLayer

namespace Routine

variable {σ τ α β : Type}

-- Routines that do the same, transition by transition, where the second sees less of the state.
def Follows (view : σ → τ) : Routine σ α → Routine τ α → Prop
  | .done result, .done other => result = other
  | .step change next, .step other otherNext => ∀ state,
      view (change state) = other (view state) ∧ (next state).Follows view (otherNext (view state))
  | .pause point next, .pause other otherNext => point = other ∧ next.Follows view otherNext
  | _, _ => False

theorem bind_follows (view : σ → τ) (first : Routine σ α) (other : Routine τ α)
    (next : α → Routine σ β) (otherNext : α → Routine τ β) (before : first.Follows view other)
    (after : ∀ value, (next value).Follows view (otherNext value)) :
    (first >>= next).Follows view (other >>= otherNext) := by
  induction first generalizing other with
  | done result =>
      cases other with
      | done value =>
          cases before
          exact after result
      | step change rest => exact before.elim
      | pause point rest => exact before.elim
  | step change rest ih =>
      cases other with
      | done value => exact before.elim
      | step otherChange otherRest =>
          intro state
          exact ⟨(before state).1, ih state _ (before state).2⟩
      | pause point rest => exact before.elim
  | pause point rest ih =>
      cases other with
      | done value => exact before.elim
      | step change rest => exact before.elim
      | pause otherPoint otherRest => exact ⟨before.1, ih _ before.2⟩

theorem advance_follows (view : σ → τ) (routine : Routine σ α) (other : Routine τ α)
    (follows : routine.Follows view other) (state : σ) :
    (routine.advance state).1.Follows view (other.advance (view state)).1 := by
  cases routine <;> cases other
  case done.done => exact follows
  case step.step => exact (follows state).2
  case pause.pause => exact follows.2
  all_goals exact follows.elim

theorem through_follows (view : σ → τ) (routine : Routine σ α) (other : Routine τ α)
    (follows : routine.Follows view other) (states : List σ) :
    (routine.through states).Follows view (other.through (states.map view)) := by
  induction states generalizing routine other with
  | nil => exact follows
  | cons state rest ih => exact ih _ _ (advance_follows view routine other follows state)

end Routine

variable {ν : Type}

def World.silent (world : World ν) : World (Seen ν) :=
  ⟨(world.outside, []), world.stores, world.clients, world.latest, world.clock, world.slept,
    world.free⟩

def Client.unseeing (client : Client ν) : Client (Seen ν) :=
  ⟨client.id, client.retry,
    ⟨client.stack.layers.map fun layer => ⟨layer.name, layer.item.unseeing⟩⟩⟩

def Issued.recorded (request : Issued ν) : Issued (Seen ν) :=
  ⟨⟨request.member.mode, request.member.node.watched, request.member.client.unseeing⟩,
    request.context, request.call⟩

-- What the request has sent to the node in the worlds that it has found, with the answers.
def Issued.calls (request : Issued ν) (found : List (World ν)) : List Sight :=
  request.recorded.routine.shownThrough (World.shown Prod.snd) (found.map World.silent)

def FollowsPlain (ν : Type) : Likeness (Routine (World (Seen ν))) (Routine (World ν)) :=
  fun _ watched plain => watched.Follows World.plain plain

theorem follows_parallel : Parallel (FollowsPlain ν) where
  value _ _ := rfl
  pause _ := ⟨rfl, rfl⟩
  sequence _ _ first other next otherNext :=
    Routine.bind_follows World.plain first other next otherNext

theorem worlds_follow : WorldsAlike (ν := Seen ν) (μ := ν) (FollowsPlain ν) where
  sleep _ _ := ⟨rfl, rfl⟩
  now _ := ⟨rfl, rfl⟩
  recalled _ _ := ⟨rfl, rfl⟩
  remembered _ _ _ := ⟨rfl, rfl⟩
  client _ _ := ⟨rfl, rfl⟩
  changed _ _ _ := ⟨rfl, rfl⟩
  found _ _ := ⟨rfl, rfl⟩
  stored _ _ _ _ := ⟨rfl, rfl⟩

theorem layer_follows (layer : Layer ν) :
    (layer.unseeing.hooks : Hooks (Routine (World (Seen ν)))).Alike (FollowsPlain ν)
      layer.hooks :=
  follows_parallel.unseeing_agree worlds_follow.toClocksAlike (fun _ _ => ⟨rfl, rfl⟩) layer

theorem unseeing_items (client : Client ν) :
    client.unseeing.stack.items = client.stack.items.map Layer.unseeing := by
  simp [Client.unseeing, Stack.items]

theorem recorded_follows (request : Issued ν) :
    request.recorded.routine.Follows World.plain request.routine := by
  have parallel := follows_parallel (ν := ν)
  have same : request.member.client.unseeing.Alike (FollowsPlain ν) request.member.node.watched
      request.member.client request.member.node := by
    refine ⟨rfl, rfl, ⟨fun _ => ⟨rfl, fun _ => ⟨rfl, rfl⟩⟩, fun _ => ⟨rfl, fun _ => ⟨rfl, rfl⟩⟩⟩, ?_⟩
    rw [unseeing_items, List.map_map]
    exact parallel.stack_agrees request.member.client.stack.items _ _
      fun layer _ => layer_follows layer
  exact parallel.request_agree _ _ request.member.client request.member.node worlds_follow same
    request.context request.call

theorem recorded_in_step (request : Issued ν) (found : List (World ν)) :
    (request.recorded.routine.through (found.map World.silent)).Follows World.plain
      (request.routine.through found) := by
  have views : (found.map World.silent).map World.plain = found := by
    rw [List.map_map]
    exact List.map_id found
  have follows := Routine.through_follows World.plain _ _ (recorded_follows request)
    (found.map World.silent)
  rw [views] at follows
  exact follows

theorem pure_telling (member : Member ν) (pure : member.Pure) :
    member.Telling fun _ => ([] : List Sight) where
  send call one other := ⟨pure.node.send call one other, [], rfl, rfl⟩
  sendBatch calls one other := ⟨pure.node.sendBatch calls one other, [], rfl, rfl⟩
  layers layer present := by
    have fixed := pure.layers layer present
    cases layer with
    | functions onRequest onReply =>
        constructor
        · intro change given call one other
          exact ⟨fixed.1 change given call one other, [], rfl, rfl⟩
        · intro change given method reply one other
          exact ⟨fixed.2 change given method reply one other, [], rfl, rfl⟩
    | custom onRequest onReply =>
        have each (step : Hook.Step ν) (pure : step.Pure) :
            step.Telling fun _ => ([] : List Sight) := by
          cases step with
          | outside change => exact fun one other => ⟨pure one other, [], rfl, rfl⟩
          | _ => exact pure
        exact ⟨fun call => Hook.every_mono _ _ each _ (fixed.1 call),
          fun method reply => Hook.every_mono _ _ each _ (fixed.2 method reply)⟩
    | _ => exact fixed

theorem unseeing_every {α : Type} (hook : Hook ν α) (pure : hook.Every Hook.Step.Pure) :
    hook.unseeing.Every (Hook.Step.Telling Prod.snd) := by
  induction hook with
  | done outcome => trivial
  | step first next ih =>
      obtain ⟨here, later⟩ := pure
      cases first with
      | outside change =>
          exact ⟨fun one other => ⟨here one.1 other.1, [], (List.append_nil _).symm,
            (List.append_nil _).symm⟩, fun learnt => ih learnt (later learnt)⟩
      | now => exact here.elim
      | wait delay => exact ⟨trivial, fun answer => ih answer (later answer)⟩
      | send call => exact ⟨trivial, fun answer => ih answer (later answer)⟩
      | sendBatch calls => exact ⟨trivial, fun answer => ih answer (later answer)⟩

theorem unseeing_telling (layer : Layer ν) (pure : layer.Pure) :
    layer.unseeing.Telling Prod.snd := by
  cases layer with
  | functions onRequest onReply =>
      constructor
      · rintro _ given call one other
        obtain ⟨change, present, rfl⟩ := Option.map_eq_some_iff.mp given
        exact ⟨pure.1 change present call one.1 other.1, [], (List.append_nil _).symm,
          (List.append_nil _).symm⟩
      · rintro _ given method reply one other
        obtain ⟨change, present, rfl⟩ := Option.map_eq_some_iff.mp given
        exact ⟨pure.2 change present method reply one.1 other.1, [], (List.append_nil _).symm,
          (List.append_nil _).symm⟩
  | custom onRequest onReply =>
      exact ⟨fun call => unseeing_every _ (pure.1 call),
        fun method reply => unseeing_every _ (pure.2 method reply)⟩
  | _ => exact pure

theorem recorded_telling (request : Issued ν) (pure : request.member.Pure) :
    request.recorded.member.Telling Prod.snd where
  send call one other := by
    have same := pure.node.send call one.1 other.1
    exact ⟨same, [.sent call (request.member.node.send call one.1).1], rfl, by rw [same]; rfl⟩
  sendBatch calls one other := by
    have same := pure.node.sendBatch calls one.1 other.1
    exact ⟨same, [.sentBatch calls (request.member.node.sendBatch calls one.1).1], rfl,
      by rw [same]; rfl⟩
  layers layer present := by
    change layer ∈ request.member.client.unseeing.stack.items at present
    rw [unseeing_items] at present
    obtain ⟨plain, inside, rfl⟩ := List.mem_map.mp present
    exact unseeing_telling plain (pure.layers plain inside)

section Calls

variable (store : Nat) (mine : Issued ν → Prop) (request : Issued ν) (own : mine request)
  (pure : request.member.Pure)

theorem silent_level (one other : World ν) (level : Level store mine one other) :
    Level store (fun asked => ∃ request, mine request ∧ asked = request.recorded) one.silent
      other.silent := by
  refine ⟨level.clients, ?_, level.unbounded, ?_⟩
  · rintro _ ⟨request, own, rfl⟩
    exact level.installed request own
  · rintro _ ⟨request, own, rfl⟩
    exact level.held request own

include own pure in
theorem calls_alike (found others : List (World ν))
    (same : List.Forall₂ (Level store mine) found others) :
    request.calls found = request.calls others := by
  have blind := request_unseeing Prod.snd store
    (fun asked => ∃ request, mine request ∧ asked = request.recorded) request.recorded
    (recorded_telling request pure) ⟨request, own, rfl⟩
  exact (Routine.through_blind _ _ (shown_idle Prod.snd) _ blind _ _
    (List.rel_map (silent_level store mine) same)).2.1

end Calls

end RequestLayer
