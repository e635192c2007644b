import RequestLayer.Fault.Description
import RequestLayer.Settings.Reader
import RequestLayer.Text.Blank

set_option autoImplicit false

namespace RequestLayer

inductive FileContents where
  | absent
  | bytes (contents : ByteArray)

def FileContents.text : FileContents → Except String String
  | .absent => .error "No such file or directory (os error 2)"
  | .bytes contents =>
      match String.fromUTF8? contents with
      | some text => .ok text
      | none => .error "stream did not contain valid UTF-8"

inductive Link where
  | message (text : String)
  | unread (cause : Json.Reader.Fault)
  | failed (cause : Fault)

def Json.Reader.Fault.message : Json.Reader.Fault → String
  | .malformed => "malformed JSON"
  | .truncated => "JSON ends too early"
  | .mismatch cause => cause.message

def Link.text : Link → String
  | .message text => text
  | .unread cause => cause.message
  | .failed cause => cause.message

abbrev Chain := List Link

def Chain.text (chain : Chain) : String :=
  ": ".intercalate (chain.map Link.text)

def readFile (what name : String) (file : FileContents) : Except Chain String :=
  file.text.mapError fun reason =>
    [.message (s!"Failed to read {what}: " ++ Text.quoted name), .message reason]

def Settings.load (name : String) (file : FileContents) : Except Chain Settings := do
  let text ← readFile "config file" name file
  let settings ← (Settings.read text).mapError fun fault =>
    [Link.message ("Failed to parse config file: " ++ Text.quoted name), .unread fault]
  settings.validate.mapError fun fault =>
    [Link.message ("Invalid config file: " ++ Text.quoted name), .failed fault]
  return settings

namespace AllowList

inductive Line where
  | silent
  | method (name : String)
  | invalid (text : String)
deriving DecidableEq, Repr

def Line.ofText (line : List Char) : Line :=
  let text := Text.trim line
  if text.isEmpty || text.head? == some '#' then .silent
  else if isMethodName (String.ofList text) then .method (String.ofList text)
  else .invalid (String.ofList text)

def methodsFrom (number : Nat) : List Line → Except Chain (List String)
  | [] => .ok []
  | .silent :: rest => methodsFrom (number + 1) rest
  | .method name :: rest => do
      let others ← methodsFrom (number + 1) rest
      return name :: others
  | .invalid text :: _ =>
      .error [.message s!"Invalid method name on line {number}: {text}"]

def read (text : String) : Except Chain (List String) := do
  match ← methodsFrom 1 ((Text.lines text.toList).map Line.ofText) with
  | [] => .error [.message "Allow-list is empty (no method names found)"]
  | methods => return methods

def load (name : String) (file : FileContents) : Except Chain (List String) := do
  read (← readFile "allow-list file" name file)

end AllowList

end RequestLayer
