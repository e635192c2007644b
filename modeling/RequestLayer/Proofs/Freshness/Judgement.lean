import RequestLayer.World

set_option autoImplicit false

namespace RequestLayer.Freshness

variable {ν : Type}

inductive Traffic where
  | single (call : Call)
  | batch (calls : List Call)

def recorder (node : Node ν) : Channel (StateM (ν × List Traffic)) where
  send call := ExceptT.mk fun (state, sent) =>
    let (answer, next) := node.send call state
    (answer, next, sent ++ [.single call])
  sendBatch calls := ExceptT.mk fun (state, sent) =>
    let (answer, next) := node.sendBatch calls state
    (answer, next, sent ++ [.batch calls])

def Finds (answer : Except Fault Reply) (number : Nat) : Prop :=
  ∃ reply header, answer = .ok reply ∧ reply.error = none ∧
    Header.ofResult (reply.result.getD .null) = .ok header ∧ header.number = number

-- The field `blockNumber` only counts where there is no field `number`, even an unfit one.
def Carries (result : Json) (number : Nat) : Prop :=
  ∃ field, Quantity.ofJson? field = some number ∧
    (result.field? "number" = some field ∨
      result.field? "number" = none ∧ result.field? "blockNumber" = some field)

def Names (params : Params) (reference : BlockRef) : Prop :=
  ∃ first, params.head? = some first ∧ BlockRef.ofJson? first = some reference

structure Pending (rule : Rule) (method : String) (result : Option Json) (threshold : Threshold)
    (value : Json) : Prop where
  cacheable : method ∈ rule.cacheable
  present : result = some value
  notNull : value ≠ .null
  bound : rule.threshold = some threshold

def Reached (node : Node ν) (threshold : Threshold) (state : ν) (number : Nat) : Prop :=
  ∃ limit, Finds (node.send (.header threshold.tag) state).1 limit ∧ number ≤ limit

-- From a state of the node to the decision, the calls made for it, and the state after them.
inductive Judged (node : Node ν) (rule : Rule) (call : Call) (result : Option Json) (state : ν) :
    Bool → List Call → ν → Prop
  | notCacheable (outside : call.method ∉ rule.cacheable) :
      Judged node rule call result state false [] state
  | noResult (nothing : result = none ∨ result = some .null) :
      Judged node rule call result state false [] state
  | noThreshold (value : Json) (cacheable : call.method ∈ rule.cacheable)
      (present : result = some value) (notNull : value ≠ .null) (unbound : rule.threshold = none) :
      Judged node rule call result state true [] state
  | constant (threshold : Threshold) (value : Json)
      (pending : Pending rule call.method result threshold value)
      (noNumber : call.method ∉ methodsByNumber) (noHash : call.method ∉ methodsByHash)
      (noResult : call.method ∉ methodsByResult) :
      Judged node rule call result state true [] state
  | earliest (threshold : Threshold) (value : Json)
      (pending : Pending rule call.method result threshold value)
      (group : call.method ∈ methodsByNumber)
      (first : call.params.head? = some (.string "earliest")) :
      Judged node rule call result state true [] state
  | number (threshold : Threshold) (value : Json) (number : Nat) (answer : Bool)
      (pending : Pending rule call.method result threshold value)
      (group : call.method ∈ methodsByNumber) (named : Names call.params (.number number))
      (judged : answer = true ↔ Reached node threshold state number) :
      Judged node rule call result state answer [.header threshold.tag]
        (node.send (.header threshold.tag) state).2
  | noNumber (threshold : Threshold) (value : Json)
      (pending : Pending rule call.method result threshold value)
      (group : call.method ∈ methodsByNumber)
      (later : call.params.head? ≠ some (.string "earliest"))
      (unnamed : ∀ number, ¬ Names call.params (.number number)) :
      Judged node rule call result state false [] state
  | hash (threshold : Threshold) (value : Json) (hash : Bytes32) (number : Nat) (answer : Bool)
      (pending : Pending rule call.method result threshold value)
      (group : call.method ∈ methodsByHash) (named : Names call.params (.hash hash))
      (found : Finds (node.send (.headerByHash hash) state).1 number)
      (judged : answer = true ↔
        Reached node threshold (node.send (.headerByHash hash) state).2 number) :
      Judged node rule call result state answer [.headerByHash hash, .header threshold.tag]
        (node.send (.header threshold.tag) (node.send (.headerByHash hash) state).2).2
  | lostHash (threshold : Threshold) (value : Json) (hash : Bytes32)
      (pending : Pending rule call.method result threshold value)
      (group : call.method ∈ methodsByHash) (named : Names call.params (.hash hash))
      (lost : ∀ number, ¬ Finds (node.send (.headerByHash hash) state).1 number) :
      Judged node rule call result state false [.headerByHash hash]
        (node.send (.headerByHash hash) state).2
  | noHash (threshold : Threshold) (value : Json)
      (pending : Pending rule call.method result threshold value)
      (group : call.method ∈ methodsByHash) (unnamed : ∀ hash, ¬ Names call.params (.hash hash)) :
      Judged node rule call result state false [] state
  | carried (threshold : Threshold) (value : Json) (number : Nat) (answer : Bool)
      (pending : Pending rule call.method result threshold value)
      (group : call.method ∈ methodsByResult) (carries : Carries value number)
      (judged : answer = true ↔ Reached node threshold state number) :
      Judged node rule call result state answer [.header threshold.tag]
        (node.send (.header threshold.tag) state).2
  | notCarried (threshold : Threshold) (value : Json)
      (pending : Pending rule call.method result threshold value)
      (group : call.method ∈ methodsByResult) (without : ∀ number, ¬ Carries value number) :
      Judged node rule call result state false [] state

end RequestLayer.Freshness
