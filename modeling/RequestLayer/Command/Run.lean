import RequestLayer.Client.Basic
import RequestLayer.Command.Arguments
import RequestLayer.Routine
import RequestLayer.Settings.Files
import RequestLayer.Wire.Node

set_option autoImplicit false

namespace RequestLayer.Command

inductive Outcome where
  | printed (text : String)
  | failed (message : String)
  | misused (misuse : Misuse)

def settings (arguments : Arguments) (files : String → FileContents) : Except Chain Settings := do
  let base ← match arguments.config with
    | some name => Settings.load name (files name)
    | none => .ok {}
  let listed ← match arguments.allowList with
    | some name => AllowList.load name (files name)
    | none => .ok []
  let settings := { base with allowed := base.allowed ++ listed }
  settings.validate.mapError fun fault =>
    [Link.message "Invalid client configuration", .failed fault]
  return settings

def readParams (text : String) : Except Chain Params := do
  let value ← (Json.read text).mapError fun fault =>
    [Link.message s!"Invalid params JSON: {text}", .unread fault]
  match value with
  | .array params => return params
  | other => .error [.message ("Params must be a JSON array, got: " ++ other.compact)]

def readCallText (text : String) : Except Chain Call := do
  let method := text.toList.takeWhile (· ≠ '=')
  let params ← match text.toList.drop method.length with
    | [] => .ok []
    | _ :: params => readParams (String.ofList params)
  if method.isEmpty then .error [.message s!"Missing method name in call: {text}"]
  else return ⟨String.ofList method, params⟩

def batchItem (call : Call) : Except Fault Json → Json
  | .ok result => .object [("method", .string call.method), ("result", result)]
  | .error fault => .object [("error", .string fault.message), ("method", .string call.method)]

def batchOutput (calls : List Call) (outcomes : List (Except Fault Json)) : Json :=
  .array ((calls.zip outcomes).map fun (call, outcome) => batchItem call outcome)

variable {ν : Type} {m : Type → Type} [Monad m] [MonadStateOf (World ν) m] [Await m]

def sendRepeatedly (client : Client ν) (node : Node ν) (context : Context) (call : Call) :
    Nat → ExceptT Fault m Json
  | 0 => client.request node context call
  | more + 1 => do
      discard (client.request node context call)
      sendRepeatedly client node context call more

def storedCount (client : Client ν) : m Json := do
  match (← client.caching).store with
  | some store => return Json.ofNat (← World.readStore (ν := ν) store).size
  | none => return .null

def perform (settings : Settings) (node : Node ν) (context : Context) (action : Action) :
    ExceptT Chain m Json := do
  let client ← (settings.client (ν := ν) (m := m)).adapt fun fault => [Link.failed fault]
  match action with
  | .call method params times =>
      let call : Call := ⟨method, ← ExceptT.mk (pure (readParams params))⟩
      let result ← (sendRepeatedly client node context call (times - 1)).adapt fun fault =>
        [Link.message s!"{method} failed", .failed fault]
      let stored ← ExceptT.lift (storedCount client)
      return .object [("cache_entries", stored), ("method", .string method),
        ("requests", Json.ofNat (max times 1)), ("result", result)]
  | .batch texts =>
      let calls ← ExceptT.mk (pure (texts.mapM readCallText))
      let outcomes ← (client.requestBatch node calls).adapt fun fault => [Link.failed fault]
      return batchOutput calls outcomes

-- A suspendable run has nobody else in its turn.
def run {ε : Type} (arguments : List String) (files : String → FileContents)
    (server : Wire.Server ε) (clock : Clock) (kept : ε) : Outcome × ε :=
  match Arguments.read arguments with
  | .error misuse => (.misused misuse, kept)
  | .ok arguments =>
      match settings arguments files with
      | .error chain => (.failed chain.text, kept)
      | .ok settings =>
          let blocking : StateM (World (Wire.Session ε)) (Except Chain Json) :=
            (perform settings (Wire.node server) (.thread 1) arguments.action).run
          let suspendable : Routine (World (Wire.Session ε)) (Except Chain Json) :=
            (perform settings (Wire.node server) (.thread 1) arguments.action).run
          let (outcome, world) :=
            (if arguments.suspendable then suspendable.run else blocking).run
              (.start (.start kept) clock)
          match outcome with
          | .ok output => (.printed (output.indented ++ "\n"), world.outside.server)
          | .error chain => (.failed chain.text, world.outside.server)

end RequestLayer.Command
