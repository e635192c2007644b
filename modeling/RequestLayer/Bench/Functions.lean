import RequestLayer.Bench.Node
import RequestLayer.Layer

set_option autoImplicit false

namespace RequestLayer.Bench

inductive RequestAction where
  | push (value : Json)
  | set (params : Params)
  | lower
  | fail (fault : Fault)

inductive ReplyAction where
  | append (text : String)
  | result (value : Json)
  | drop
  | error (code : Option Int) (message : String)
  | fail (fault : Fault)

def RequestAction.apply (params : Params) : RequestAction → Except Fault Params
  | .push value => .ok (params ++ [value])
  | .set params => .ok params
  | .lower => .ok <| params.map fun
      | .string text => .string text.toLower
      | value => value
  | .fail fault => .error fault

def ReplyAction.apply (reply : Reply) : ReplyAction → Except Fault Reply
  | .append text => .ok <| match reply.result with
      | some (.string start) => { reply with result := some (.string (start ++ text)) }
      | _ => reply
  | .result value => .ok { reply with result := some value, error := none }
  | .drop => .ok ⟨none, none, none⟩
  | .error code message =>
      .ok { reply with result := none, error := some ⟨code, message, none⟩ }
  | .fail fault => .error fault

structure Functions where
  tag : String
  only : Option (List String)
  request : Option (List RequestAction)
  reply : Option (List ReplyAction)

namespace Functions

def acts (functions : Functions) (method : String) : Bool :=
  match functions.only with
  | some methods => methods.contains method
  | none => true

def layer (functions : Functions) : Layer Script :=
  .functions
    (functions.request.map fun actions call script =>
      (if functions.acts call.method then actions.foldlM RequestAction.apply call.params
        else .ok call.params,
        script.note s!"{functions.tag}:req:{call.method}"))
    (functions.reply.map fun actions method reply script =>
      (if functions.acts method then actions.foldlM ReplyAction.apply reply else .ok reply,
        script.note s!"{functions.tag}:resp:{method}"))

end Functions

end RequestLayer.Bench
