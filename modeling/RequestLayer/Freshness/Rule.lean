import RequestLayer.Await
import RequestLayer.Chain.Header
import RequestLayer.Channel
import RequestLayer.Freshness.Registry
import RequestLayer.Text.Description
import RequestLayer.Text.NameSet

set_option autoImplicit false

namespace RequestLayer.Freshness

inductive Threshold where
  | finalized
  | safe
deriving DecidableEq, Repr

namespace Threshold

def tag : Threshold → BlockTag
  | .finalized => .finalized
  | .safe => .safe

def name (threshold : Threshold) : String := threshold.tag.name

def ofName? : String → Option Threshold
  | "finalized" => some .finalized
  | "safe" => some .safe
  | _ => none

def ofName (name : String) : Except Fault Threshold :=
  match ofName? name with
  | some threshold => .ok threshold
  | none =>
      .error (.invalidConfiguration
        ("unknown validation threshold '" ++ name ++ "', expected 'finalized' or 'safe'"))

def description : Threshold → String
  | .finalized => "Finalized"
  | .safe => "Safe"

end Threshold

inductive Anchor where
  | number (value : Nat)
  | hash (value : Bytes32)
deriving DecidableEq

inductive Verdict where
  | settled (allowed : Bool)
  | depends (threshold : Threshold) (anchor : Anchor)
deriving DecidableEq

-- Tags other than the earliest move with the chain.
def anchored (threshold : Threshold) (category : Category) (params : Params) (result : Json) :
    Verdict :=
  let reference := params.head?.bind BlockRef.ofJson?
  match category with
  | .unvalidated => .settled true
  | .numberInParams =>
      match reference with
      | some (.tag .earliest) => .settled true
      | some (.number value) => .depends threshold (.number value)
      | _ => .settled false
  | .hashInParams =>
      match reference with
      | some (.hash value) => .depends threshold (.hash value)
      | _ => .settled false
  | .numberInResult =>
      let number := (result.field? "number").orElse fun _ => result.field? "blockNumber"
      match number.bind Quantity.ofJson? with
      | some value => .depends threshold (.number value)
      | none => .settled false

-- The number of the block whose header an answer holds.
def blockNumber? (answer : Except Fault Reply) : Option Nat :=
  (do Header.ofResult (← (← answer).outcome)).toOption.map Header.number

structure Rule where
  threshold : Option Threshold
  cacheable : NameSet

namespace Rule

def standard (threshold : Option Threshold) : Rule :=
  ⟨threshold, NameSet.ofList registry⟩

instance : Inhabited Rule := ⟨standard (some .finalized)⟩

def allow (rule : Rule) (method : String) : Rule :=
  { rule with cacheable := NameSet.insert method rule.cacheable }

def disallow (rule : Rule) (method : String) : Rule :=
  { rule with cacheable := NameSet.erase rule.cacheable method }

def setCacheable (rule : Rule) (methods : List String) : Rule :=
  { rule with cacheable := NameSet.ofList methods }

def isCacheable (rule : Rule) (method : String) : Bool :=
  rule.cacheable.contains method

-- A method outside the registry depends on no block.
def category? (rule : Rule) (method : String) : Option Category :=
  if rule.isCacheable method then some ((Freshness.category? method).getD .unvalidated) else none

def verdict (rule : Rule) (call : Call) (result : Option Json) : Verdict :=
  match rule.category? call.method, result with
  | none, _ | _, none | _, some .null => .settled false
  | some category, some result =>
      match rule.threshold with
      | none => .settled true
      | some threshold => anchored threshold category call.params result

section Decisions

variable {m : Type → Type} [Monad m]

def allowsBlocking (rule : Rule) (channel : Channel m) (call : Call) (result : Option Json) :
    m Bool := do
  match rule.verdict call result with
  | .settled allowed => return allowed
  | .depends threshold anchor =>
      let number ← match anchor with
        | .number value => pure (some value)
        | .hash value => do
            let answer ← (channel.send (.headerByHash value)).run
            pure (blockNumber? answer)
      let some number := number | return false
      let answer ← (channel.send (.header threshold.tag)).run
      let some limit := blockNumber? answer | return false
      return number ≤ limit

def allowsAsync (rule : Rule) (channel : Channel m) (call : Call) (result : Option Json) :
    m Bool := do
  match rule.verdict call result with
  | .settled allowed => return allowed
  | .depends threshold anchor =>
      let number ← match anchor with
        | .number value => pure (some value)
        | .hash value => do
            let answer ← (channel.send (.headerByHash value)).run
            pure (blockNumber? answer)
      let some number := number | return false
      let answer ← (channel.send (.header threshold.tag)).run
      let some limit := blockNumber? answer | return false
      return number ≤ limit

-- Whether the response to a call may be stored.
def allows [Await m] (rule : Rule) (channel : Channel m) (call : Call) (result : Option Json) :
    m Bool :=
  inMode m (rule.allowsBlocking channel call result) (rule.allowsAsync channel call result)

end Decisions

def description (rule : Rule) : String :=
  Text.record "CachePolicy"
    [("threshold", Text.optional (rule.threshold.map Threshold.description)),
      ("cacheable", Text.nameSet rule.cacheable)]

end Rule

end RequestLayer.Freshness
