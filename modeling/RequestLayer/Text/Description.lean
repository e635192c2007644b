import RequestLayer.Json.Printer
import RequestLayer.Text.Quoted

set_option autoImplicit false

namespace RequestLayer.Text

def commaSeparated (items : List String) : String :=
  ", ".intercalate items

def record (name : String) (fields : List (String × String)) : String :=
  name ++ " \x7b " ++ commaSeparated (fields.map fun field => s!"{field.1}: {field.2}") ++ " \x7d"

def wrapped (name content : String) : String :=
  s!"{name}({content})"

def optional : Option String → String
  | some content => wrapped "Some" content
  | none => "None"

def listing (items : List String) : String :=
  "[" ++ commaSeparated items ++ "]"

def nameSet (names : List String) : String :=
  "\x7b" ++ commaSeparated (names.map quoted) ++ "\x7d"

end RequestLayer.Text

namespace RequestLayer.Json

open RequestLayer.Text

mutual

def description : Json → String
  | .null => "Null"
  | .bool value => wrapped "Bool" s!"{value}"
  | .number value => wrapped "Number" (String.ofList value.text)
  | .string value => wrapped "String" (quoted value)
  | .array items => "Array " ++ listing (itemDescriptions items)
  | .object fields => "Object \x7b" ++ commaSeparated (fieldDescriptions fields) ++ "\x7d"

def itemDescriptions : List Json → List String
  | [] => []
  | item :: rest => item.description :: itemDescriptions rest

def fieldDescriptions : List (String × Json) → List String
  | [] => []
  | field :: rest => fieldDescription field :: fieldDescriptions rest

def fieldDescription : String × Json → String
  | (key, value) => quoted key ++ ": " ++ value.description

end

end RequestLayer.Json
