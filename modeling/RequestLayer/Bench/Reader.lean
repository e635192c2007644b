import RequestLayer.Bench.Functions
import RequestLayer.Fault.Json

set_option autoImplicit false

namespace RequestLayer.Bench

def replyOf (value : Json) : Reply :=
  (Reply.ofJson value).toOption.getD ⟨none, none, none⟩

def Handler.ofJson (value : Json) : Handler :=
  match value.textAt "kind" with
  | "result" => .fixed (.success (value.fieldAt "value"))
  | "error" => .fixed (.failure (value.fieldAt "code").integer? (value.textAt "message"))
  | "response" => .fixed (replyOf (value.fieldAt "response"))
  | "sequence" => .sequence ((value.itemsAt "responses").map replyOf)
  | "by_first" =>
      .byFirst ((value.fieldsAt "cases").map fun entry => (entry.1, replyOf entry.2))
        (replyOf (value.fieldAt "default"))
  | "echo" => .echo
  | "concat" => .concat
  | _ => .counter (value.textAt "prefix") 0

def Script.ofJson (value : Json) : Script where
  handlers := (value.fieldsAt "handlers").map fun entry => (entry.1, .ofJson entry.2)
  failing := (value.fieldsAt "fail").map fun entry => (entry.1, entry.2.word?.getD 0)
  failingBatches := value.wordAt "fail_batches"
  raising := (value.fieldsAt "raise").map fun entry =>
    (entry.1, .ofJson (entry.2.fieldAt "error"), entry.2.wordAt "times")

def RequestAction.ofJson (value : Json) : RequestAction :=
  match value.textAt "do" with
  | "push" => .push (value.fieldAt "value")
  | "set" => .set (value.itemsAt "params")
  | "lower" => .lower
  | _ => .fail (.ofJson (value.fieldAt "error"))

def ReplyAction.ofJson (value : Json) : ReplyAction :=
  match value.textAt "do" with
  | "append" => .append (value.textAt "text")
  | "result" => .result (value.fieldAt "value")
  | "drop" => .drop
  | "error" => .error (value.fieldAt "code").integer? (value.textAt "message")
  | _ => .fail (.ofJson (value.fieldAt "error"))

def Functions.ofJson (value : Json) : Functions where
  tag := value.textAt "tag"
  only := (value.presentAt? "only").map Json.texts
  request := (value.presentAt? "request").map fun actions => actions.items.map .ofJson
  reply := (value.presentAt? "response").map fun actions => actions.items.map .ofJson

def strategy? (value : Json) : Option Fees.Strategy :=
  match value.presentAt? "const", value.presentAt? "field" with
  | some price, _ => some fun _ => price.word?
  | none, some name => some fun transaction =>
      (transaction.lookup (name.string?.getD "")).bind Json.word?
  | none, none => none

def layerOf {m : Type → Type} [Monad m] [MonadStateOf (World Script) m] (value : Json) :
    ExceptT Fault m (Layer Script) := do
  match value.textAt "type" with
  | "poa" => return .authority
  | "gas_buffer" => return .gas
  | "gas_price" => return .fees (strategy? (value.fieldAt "strategy"))
  | "stalecheck" =>
      let check ← ExceptT.mk (pure (StaleCheck.create (.ofMilliseconds (value.wordAt "delay_ms"))))
      let check := match value.presentAt? "skip" with
        | some methods => { check with skipped := methods.texts }
        | none => check
      Layer.ofStaleCheck (ν := Script) check
  | "fn" => return (Functions.ofJson value).layer
  | _ => return .passing

end RequestLayer.Bench
