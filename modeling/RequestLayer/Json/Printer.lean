import RequestLayer.Decimal.Shortest
import RequestLayer.Json.Value

set_option autoImplicit false

namespace RequestLayer

def Number.text : Number → List Char
  | .integer value =>
      (if value < 0 then ['-'] else []) ++ Nat.toDigits 10 value.natAbs
  | .fraction value => value.text

namespace Json

def escaped (c : Char) : List Char :=
  if c = '"' then ['\\', '"']
  else if c = '\\' then ['\\', '\\']
  else if 0x20 ≤ c.toNat then [c]
  else if c = '\x08' then ['\\', 'b']
  else if c = '\x0c' then ['\\', 'f']
  else if c = '\n' then ['\\', 'n']
  else if c = '\r' then ['\\', 'r']
  else if c = '\t' then ['\\', 't']
  else ['\\', 'u', '0', '0', Nat.digitChar (c.toNat / 16), Nat.digitChar (c.toNat % 16)]

def stringText (value : String) : List Char :=
  '"' :: value.toList.flatMap escaped ++ ['"']

mutual

def text : Json → List Char
  | .null => ['n', 'u', 'l', 'l']
  | .bool true => ['t', 'r', 'u', 'e']
  | .bool false => ['f', 'a', 'l', 's', 'e']
  | .number value => value.text
  | .string value => stringText value
  | .array [] => ['[', ']']
  | .array (item :: rest) => '[' :: item.text ++ itemsText rest ++ [']']
  | .object [] => ['\x7b', '\x7d']
  | .object (field :: rest) => '\x7b' :: fieldText field ++ fieldsText rest ++ ['\x7d']

def itemsText : List Json → List Char
  | [] => []
  | item :: rest => ',' :: item.text ++ itemsText rest

def fieldsText : List (String × Json) → List Char
  | [] => []
  | field :: rest => ',' :: fieldText field ++ fieldsText rest

def fieldText : String × Json → List Char
  | (key, value) => stringText key ++ ':' :: value.text

end

def compact (value : Json) : String :=
  String.ofList value.text

def lineBreak (depth : Nat) : List Char :=
  '\n' :: List.replicate (2 * depth) ' '

mutual

def layout (depth : Nat) : Json → List Char
  | .array (item :: rest) =>
      '[' :: lineBreak (depth + 1) ++ item.layout (depth + 1) ++ itemsLayout depth rest ++
        lineBreak depth ++ [']']
  | .object (field :: rest) =>
      '\x7b' :: lineBreak (depth + 1) ++ fieldLayout depth field ++ fieldsLayout depth rest ++
        lineBreak depth ++ ['\x7d']
  | value => value.text

def itemsLayout (depth : Nat) : List Json → List Char
  | [] => []
  | item :: rest =>
      ',' :: lineBreak (depth + 1) ++ item.layout (depth + 1) ++ itemsLayout depth rest

def fieldsLayout (depth : Nat) : List (String × Json) → List Char
  | [] => []
  | field :: rest =>
      ',' :: lineBreak (depth + 1) ++ fieldLayout depth field ++ fieldsLayout depth rest

def fieldLayout (depth : Nat) : String × Json → List Char
  | (key, value) => stringText key ++ ':' :: ' ' :: value.layout (depth + 1)

end

def indented (value : Json) : String :=
  String.ofList (value.layout 0)

end Json

end RequestLayer
