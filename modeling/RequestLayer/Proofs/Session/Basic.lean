import RequestLayer.Proofs.Alone.Requests

set_option autoImplicit false

namespace RequestLayer

inductive Mode where
  | blocking
  | suspendable

def World.cleared {ν : Type} (world : World ν) (store : Nat) : World ν :=
  { world with stores := world.stores.write store (world.stores.read store).clear }

abbrev InBoth (ν α : Type) :=
  (m : Type → Type) → [Monad m] → [MonadStateOf (World ν) m] → [Await m] → m α

def Mode.run {ν α : Type} (mode : Mode) (code : InBoth ν α) : StateM (World ν) α :=
  match mode with
  | .blocking => code (StateM (World ν))
  | .suspendable => (code (Routine (World ν))).run

structure Member (ν : Type) where
  mode : Mode
  node : Node ν
  client : Client ν

inductive Action where
  | request (context : Context) (call : Call)
  | batch (calls : List Call)
  | execute (batch : Batch)
  | allow (method : String)
  | disallow (method : String)
  | setCacheable (methods : List String)
  | setThreshold (threshold : Option Freshness.Threshold)

inductive Outcome where
  | single (outcome : Except Fault Json)
  | several (outcome : Except Fault (List (Except Fault Json)))
  | edited (outcome : Except Fault Unit)
  | done

namespace Member

variable {ν : Type} (member : Member ν)

def request (context : Context) (call : Call) : StateM (World ν) (Except Fault Json) :=
  member.mode.run fun _ _ _ _ => (member.client.request member.node context call).run

def requestBatch (calls : List Call) :
    StateM (World ν) (Except Fault (List (Except Fault Json))) :=
  member.mode.run fun _ _ _ _ => (member.client.requestBatch member.node calls).run

def executeBatch (batch : Batch) :
    StateM (World ν) (Except Fault (List (Except Fault Json))) :=
  member.mode.run fun _ _ _ _ => (member.client.executeBatch member.node batch).run

def passed (call : Call) : StateM (World ν) (Except Fault Reply) :=
  member.mode.run fun _ _ _ _ =>
    (Hooks.execute (member.client.channel member.node)
      (member.client.stack.items.map Layer.hooks) call).run

def allows (rule : Freshness.Rule) (call : Call) (result : Json) : StateM (World ν) Bool :=
  member.mode.run fun _ _ _ _ => rule.allows (member.client.channel member.node) call (some result)

def changeRule (change : Freshness.Rule → Freshness.Rule) : StateM (World ν) Unit :=
  member.client.changeRule change

def perform : Action → StateM (World ν) Outcome
  | .request context call => .single <$> member.request context call
  | .batch calls => .several <$> member.requestBatch calls
  | .execute batch => .several <$> member.executeBatch batch
  | .allow method => (fun _ => .done) <$> member.changeRule (·.allow method)
  | .disallow method => (fun _ => .done) <$> member.changeRule (·.disallow method)
  | .setCacheable methods => (fun _ => .done) <$> member.changeRule (·.setCacheable methods)
  | .setThreshold threshold =>
      (fun _ => .done) <$> member.changeRule fun rule => { rule with threshold }

end Member

inductive Edit (ν : Type) where
  | add (name : String) (layer : Layer ν)
  | inject (name : String) (layer : Layer ν) (position : Nat)
  | replace (name : String) (layer : Layer ν)
  | remove (name : String)
  | clear

def Edit.apply {ν : Type} : Edit ν → ExceptT Fault (StateM (Stack (Layer ν))) Unit
  | .add name layer => Stack.add name layer
  | .inject name layer position => Stack.inject name layer position
  | .replace name layer => Stack.replace name layer
  | .remove name => Stack.remove name
  | .clear => Stack.clear

inductive Move (ν : Type) where
  | act (action : Action)
  | edit (change : Edit ν)

structure Session (ν : Type) where
  world : World ν
  members : List (Member ν)

namespace Session

variable {ν : Type}

def moved (session : Session ν) (index : Nat) (member : Member ν) :
    Move ν → Outcome × Session ν
  | .act action =>
      let (outcome, world) := (member.perform action).run session.world
      (outcome, { session with world })
  | .edit change =>
      let (outcome, stack) := change.apply.run member.client.stack
      let member := { member with client := { member.client with stack } }
      (.edited outcome, { session with members := session.members.set index member })

def step (session : Session ν) (index : Nat) (move : Move ν) : Outcome × Session ν :=
  match session.members[index]? with
  | some member => session.moved index member move
  | none => (.done, session)

end Session

namespace Member

variable {ν : Type} (member : Member ν)

-- The two modes do the same, so that what follows is about blocking clients only.
theorem run_alike {α : Type} (mode : Mode) (code : InBoth ν α)
    (alike : (code (Routine (World ν))).run = code (StateM (World ν))) :
    mode.run code = code (StateM (World ν)) := by
  cases mode with
  | blocking => rfl
  | suspendable => exact alike

theorem request_blocking (context : Context) (call : Call) :
    member.request context call = (member.client.request member.node context call).run :=
  run_alike _ _ (congrArg ExceptT.run (request_alone member.client member.node context call))

theorem request_batch_blocking (calls : List Call) :
    member.requestBatch calls = (member.client.requestBatch member.node calls).run :=
  run_alike _ _ (congrArg ExceptT.run (request_batch_alone member.client member.node calls))

theorem execute_batch_blocking (batch : Batch) :
    member.executeBatch batch = (member.client.executeBatch member.node batch).run :=
  run_alike _ _ (congrArg ExceptT.run (built_batch_alone member.client member.node batch))

theorem passed_blocking (call : Call) :
    member.passed call =
      (Hooks.execute (member.client.channel member.node)
        (member.client.stack.items.map Layer.hooks) call).run :=
  run_alike _ _ (congrArg ExceptT.run (client_execute_alone member.client member.node call))

theorem allows_blocking (rule : Freshness.Rule) (call : Call) (result : Json) :
    member.allows rule call result =
      rule.allows (member.client.channel member.node) call (some result) :=
  run_alike _ _ (client_allows_alone member.client member.node rule call (some result))

end Member

end RequestLayer
