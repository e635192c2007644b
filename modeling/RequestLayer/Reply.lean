import RequestLayer.Fault
import RequestLayer.Json.Access

set_option autoImplicit false

namespace RequestLayer

structure ErrorObject where
  code : Option Int
  message : String
  data : Option Json

structure Reply where
  id : Option Json
  result : Option Json
  error : Option ErrorObject

namespace ErrorObject

def code? : Option Json → Except Json.Mismatch (Option Int)
  | none | some .null => .ok none
  | some (.number (.integer value)) =>
      if value < Nat.pow 2 63 then .ok (some value) else .error (.range value "i64")
  | some value => .error (.kind value.shape "i64")

def text : Json → Except Json.Mismatch String
  | .string value => .ok value
  | value => .error (.kind value.shape "a string")

-- Of several unfit fields the first by key is reported.
def ofJson : Json → Except Json.Mismatch ErrorObject
  | .object fields => do
      let code ← code? (fields.lookup "code")
      let message ← (fields.lookup "message").mapM text
      match message with
      | some message => return { code, message, data := Json.present? (fields.lookup "data") }
      | none => .error (.missingField "message")
  | .array items => do
      let code ← code? items[0]?
      let message ← match items[1]? with
        | some value => text value
        | none => .error (.length 1 "struct ErrorObject with 3 elements")
      if 3 < items.length then .error (.length items.length "fewer elements in array")
      else return { code, message, data := Json.present? items[2]? }
  | value => .error (.kind value.shape "struct ErrorObject")

def toJson (error : ErrorObject) : Json :=
  .object <|
    (error.code.map fun code => ("code", Json.ofInt code)).toList ++
    (error.data.map fun data => ("data", data)).toList ++
    [("message", .string error.message)]

def toFault (error : ErrorObject) : Fault :=
  .rpc error.code error.message error.data

end ErrorObject

namespace Reply

def success (result : Json) : Reply := ⟨none, some result, none⟩

def failure (code : Option Int) (message : String) : Reply :=
  ⟨none, none, some ⟨code, message, none⟩⟩

def isError (reply : Reply) : Bool :=
  reply.error.isSome

def outcome (reply : Reply) : Except Fault Json :=
  match reply.error with
  | some error => .error error.toFault
  | none => .ok (reply.result.getD .null)

def errorOf? : Option Json → Except Json.Mismatch (Option ErrorObject)
  | none | some .null => .ok none
  | some value => some <$> ErrorObject.ofJson value

def ofJson : Json → Except Json.Mismatch Reply
  | .object fields => do
      let error ← errorOf? (fields.lookup "error")
      return {
        id := Json.present? (fields.lookup "id")
        result := Json.present? (fields.lookup "result")
        error }
  | .array items => do
      let error ← errorOf? items[2]?
      if 3 < items.length then .error (.length items.length "fewer elements in array")
      else return { id := Json.present? items[0]?, result := Json.present? items[1]?, error }
  | value => .error (.kind value.shape "struct RpcResponse")

def toJson (reply : Reply) : Json :=
  .object <|
    (reply.error.map fun error => ("error", error.toJson)).toList ++
    (reply.id.map fun id => ("id", id)).toList ++
    (reply.result.map fun result => ("result", result)).toList

end Reply

end RequestLayer
