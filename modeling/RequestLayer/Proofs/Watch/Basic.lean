import RequestLayer.Proofs.Parallel.Requests

set_option autoImplicit false

namespace RequestLayer

inductive Sight where
  | request (layer : String) (call : Call)
  | reply (layer : String) (method : String) (given : Reply)
  | sent (call : Call) (outcome : Except Fault Reply)
  | sentBatch (calls : List Call) (outcome : Except Fault (List Reply))

-- Beside what a node and the functions of layers keep stands a list of what was seen: every call and
-- every batch that the node was sent with its answer, and every hook that was about to run.
abbrev Seen (ν : Type) := ν × List Sight

variable {ν : Type}

def Node.watched (node : Node ν) : Node (Seen ν) where
  send call outside :=
    let (outcome, after) := node.send call outside.1
    (outcome, after, outside.2 ++ [.sent call outcome])
  sendBatch calls outside :=
    let (outcome, after) := node.sendBatch calls outside.1
    (outcome, after, outside.2 ++ [.sentBatch calls outcome])

-- The hook itself, changing what the plain one changes.
def Hook.unseeing {α : Type} : Hook ν α → Hook (Seen ν) α
  | .done outcome => .done outcome
  | .step (.outside change) next =>
      .step (.outside fun outside =>
        let (learnt, after) := change outside.1
        (learnt, after, outside.2)) fun learnt => (next learnt).unseeing
  | .step .now next => .step .now fun time => (next time).unseeing
  | .step (.wait delay) next => .step (.wait delay) fun _ => (next ()).unseeing
  | .step (.send call) next => .step (.send call) fun answer => (next answer).unseeing
  | .step (.sendBatch calls) next => .step (.sendBatch calls) fun answer => (next answer).unseeing

namespace Layer

def unseeing : Layer ν → Layer (Seen ν)
  | .passing => .passing
  | .authority => .authority
  | .gas => .gas
  | .fees strategy => .fees strategy
  | .staleness check memory => .staleness check memory
  | .functions onRequest onReply =>
      .functions
        (onRequest.map fun change call outside =>
          let (outcome, after) := change call outside.1
          (outcome, after, outside.2))
        (onReply.map fun change method reply outside =>
          let (outcome, after) := change method reply outside.1
          (outcome, after, outside.2))
  | .custom onRequest onReply =>
      .custom (fun call => (onRequest call).unseeing) fun method reply => (onReply method reply).unseeing

def beforeRequest (name : String) : Layer (Seen ν) :=
  .functions (some fun call outside =>
    (.ok call.params, outside.1, outside.2 ++ [.request name call])) none

def beforeReply (name : String) : Layer (Seen ν) :=
  .functions none (some fun method reply outside =>
    (.ok reply, outside.1, outside.2 ++ [.reply name method reply]))

-- Requests come from the outside and replies from the inside, so both are seen before the layer is.
def watched (layer : Named (Layer ν)) : List (Named (Layer (Seen ν))) :=
  [⟨layer.name, beforeRequest layer.name⟩, ⟨layer.name, layer.item.unseeing⟩,
    ⟨layer.name, beforeReply layer.name⟩]

end Layer

def Client.watched (client : Client ν) : Client (Seen ν) :=
  ⟨client.id, client.retry, ⟨client.stack.layers.flatMap Layer.watched⟩⟩

def World.plain (world : World (Seen ν)) : World ν :=
  ⟨world.outside.1, world.stores, world.clients, world.latest, world.clock, world.slept, world.free⟩

def Unwatched (ν : Type) : Likeness (StateM (World (Seen ν))) (StateM (World ν)) :=
  fun _ watched plain => ∀ world,
    plain world.plain = ((watched world).1, (watched world).2.plain)

theorem unwatched_parallel : Parallel (Unwatched ν) where
  value _ _ _ := rfl
  pause _ _ := rfl
  sequence _ _ first other next otherNext before after world := by
    change otherNext (other world.plain).1 (other world.plain).2 = _
    rw [before world]
    exact after (first world).1 (first world).2

theorem worlds_unwatched : WorldsAlike (ν := Seen ν) (μ := ν) (Unwatched ν) where
  sleep _ _ := rfl
  now _ := rfl
  recalled _ _ := rfl
  remembered _ _ _ := rfl
  client _ _ := rfl
  changed _ _ _ := rfl
  found _ _ := rfl
  stored _ _ _ _ := rfl

theorem node_watched (node : Node ν) :
    (node.watched.channel : Channel (StateM (World (Seen ν)))).Alike (Unwatched ν) node.channel :=
  ⟨fun _ _ => rfl, fun _ _ => rfl⟩

theorem before_request_watched (name : String) :
    StacksAlike (Unwatched ν) [(Layer.beforeRequest (ν := ν) name).hooks] [] where
  outbound _ _ _ _ _ := rfl
  inbound _ _ _ _ _ _ := rfl

theorem before_reply_watched (name : String) :
    StacksAlike (Unwatched ν) [(Layer.beforeReply (ν := ν) name).hooks] [] where
  outbound _ _ _ _ _ := rfl
  inbound _ _ _ _ _ _ := rfl

theorem Parallel.unseeing_agree {m n : Type → Type} [Monad m] [LawfulMonad m] [Await m] [Monad n]
    [LawfulMonad n] [Await n] [MonadStateOf (World (Seen ν)) m] [MonadStateOf (World ν) n]
    {alike : Likeness m n} (parallel : Parallel alike)
    (clocks : ClocksAlike (ν := Seen ν) (μ := ν) alike)
    (outside : ∀ {α : Type} (change : ν → α × ν),
      alike α
        (modifyGetThe (World (Seen ν)) (World.onOutside fun outside =>
          let (outcome, after) := change outside.1
          (outcome, after, outside.2)))
        (modifyGetThe (World ν) (World.onOutside change)))
    (layer : Layer ν) : (layer.unseeing.hooks : Hooks m).Alike alike layer.hooks := by
  have steps {α : Type} (channel : Channel m) (other : Channel n)
      (same : channel.Alike alike other) (hook : Hook ν α) :
      alike (Except Fault α) (hook.unseeing.run channel) (hook.run other) := by
    induction hook with
    | done outcome => exact parallel.value _ outcome
    | step first next ih =>
        cases first with
        | outside change => exact parallel.sequence _ _ _ _ _ _ (outside change) ih
        | now => exact parallel.sequence _ _ _ _ _ _ clocks.now ih
        | wait delay =>
            exact parallel.sequence _ _ _ _ _ _
              (parallel.sequence _ _ _ _ _ _ (parallel.pause .delay) fun _ => clocks.sleep delay) ih
        | send call => exact parallel.sequence _ _ _ _ _ _ (same.send call) ih
        | sendBatch calls => exact parallel.sequence _ _ _ _ _ _ (same.sendBatch calls) ih
  cases layer with
  | passing => exact parallel.passing_agree
  | authority => exact parallel.authority_agree
  | gas => exact parallel.gas_agree
  | fees strategy => exact parallel.fees_agree strategy
  | staleness check memory => exact parallel.staleness_agree clocks check memory
  | functions onRequest onReply =>
      constructor
      · intro _ _ _ call
        cases onRequest with
        | none => exact parallel.pure_agree call.params
        | some change => exact outside (change call)
      · intro _ _ _ method reply
        cases onReply with
        | none => exact parallel.pure_agree reply
        | some change => exact outside (change method reply)
  | custom onRequest onReply =>
      exact ⟨fun channel other same call => steps channel other same (onRequest call),
        fun channel other same method reply => steps channel other same (onReply method reply)⟩

theorem unseeing_alike (layer : Layer ν) :
    (layer.unseeing.hooks : Hooks (StateM (World (Seen ν)))).Alike (Unwatched ν) layer.hooks :=
  unwatched_parallel.unseeing_agree worlds_unwatched.toClocksAlike (fun _ _ => rfl) layer

theorem layer_watched (layer : Named (Layer ν)) :
    StacksAlike (Unwatched ν)
      (((Layer.watched layer).map Named.item).map
        (Layer.hooks (m := StateM (World (Seen ν)))))
      [layer.item.hooks] := by
  have parallel := unwatched_parallel (ν := ν)
  have inside := parallel.append_agree _ _ _ _
    (parallel.single_agrees _ _ (unseeing_alike layer.item)) (before_reply_watched layer.name)
  exact parallel.append_agree _ _ _ _ (before_request_watched layer.name) inside

theorem layers_watched (layers : List (Named (Layer ν))) :
    StacksAlike (Unwatched ν)
      (((layers.flatMap Layer.watched).map Named.item).map
        (Layer.hooks (m := StateM (World (Seen ν)))))
      ((layers.map Named.item).map Layer.hooks) := by
  have parallel := unwatched_parallel (ν := ν)
  induction layers with
  | nil => exact parallel.nothing_agrees
  | cons layer rest ih =>
      rw [List.flatMap_cons, List.map_append, List.map_append]
      exact parallel.append_agree _ _ [layer.item.hooks] _ (layer_watched layer) ih

theorem client_watched (client : Client ν) (node : Node ν) :
    client.watched.Alike (Unwatched ν) node.watched client node where
  id := rfl
  retry := rfl
  channel := node_watched node
  stack := layers_watched client.stack.layers

end RequestLayer
