set_option autoImplicit false

namespace RequestLayer.Command

inductive Action where
  | call (method params : String) (times : Nat)
  | batch (calls : List String)
deriving DecidableEq, Repr

structure Arguments where
  url : String
  config : Option String
  allowList : Option String
  suspendable : Bool
  action : Action
deriving DecidableEq, Repr

inductive Misuse where
  | wrong
  | help
deriving DecidableEq, Repr

inductive Token where
  | long (name : String) (attached : Option String)
  | short (name : Char) (attached : Option String)
  | divider
  | plain (text : String)
deriving DecidableEq, Repr

def token (argument : String) : Token :=
  match argument.toList with
  | ['-', '-'] => .divider
  | '-' :: '-' :: rest =>
      let name := rest.takeWhile (· ≠ '=')
      match rest.drop name.length with
      | [] => .long (String.ofList name) none
      | _ :: value => .long (String.ofList name) (some (String.ofList value))
  | '-' :: name :: rest =>
      match rest with
      | [] => .short name none
      | '=' :: value => .short name (some (String.ofList value))
      | value => .short name (some (String.ofList value))
  | _ => .plain argument

-- The next argument is no value if it starts with a dash and has more to it.
def isValue (argument : String) : Bool :=
  token argument matches .plain _

structure Options where
  url : Option String := none
  config : Option String := none
  allowList : Option String := none
  suspendable : Bool := false

inductive OptionName where
  | url
  | config
  | allowList
  | suspendable
  | help

def optionName? : Token → Option OptionName
  | .long "rpc-url" _ | .short 'r' _ => some .url
  | .long "config" _ | .short 'c' _ => some .config
  | .long "allow-list" _ | .short 'a' _ => some .allowList
  | .long "async" _ => some .suspendable
  | .long "help" none | .short 'h' _ => some .help
  | _ => none

def Token.attached : Token → Option String
  | .long _ attached | .short _ attached => attached
  | _ => none

def once (old : Option String) (value : String) : Except Misuse (Option String) :=
  match old with
  | none => .ok (some value)
  | some _ => .error .wrong

def oncePath (old : Option String) (value : String) : Except Misuse (Option String) :=
  if value = "" then .error .wrong else once old value

def Options.set (options : Options) (name : OptionName) (value : String) :
    Except Misuse Options := do
  match name with
  | .url => return { options with url := ← once options.url value }
  | .config => return { options with config := ← oncePath options.config value }
  | .allowList => return { options with allowList := ← oncePath options.allowList value }
  | .suspendable | .help => .error .wrong

def readOptions (options : Options) : List String → Except Misuse (Options × String × List String)
  | [] => .error .wrong
  | argument :: rest =>
      match token argument with
      | .plain name => .ok (options, name, rest)
      | found =>
          match optionName? found, found.attached, rest with
          | none, _, _ => .error .wrong
          | some .help, _, _ => .error .help
          | some .suspendable, none, rest =>
              if options.suspendable then .error .wrong
              else readOptions { options with suspendable := true } rest
          | some name, some value, rest => do
              readOptions (← options.set name value) rest
          | some name, none, value :: rest =>
              if isValue value then do readOptions (← options.set name value) rest
              else .error .wrong
          | some _, none, [] => .error .wrong

def wholeNumber? (text : String) : Option Int :=
  let (negative, digits) := match text.toList with
    | '-' :: rest => (true, rest)
    | '+' :: rest => (false, rest)
    | digits => (false, digits)
  if digits.isEmpty ∨ ¬ digits.all Char.isDigit then none
  else
    let value : Int := digits.foldl (fun value (c : Char) => value * 10 + (c.toNat - 48 : Nat)) 0
    some (if negative then -value else value)

def times (old : Option Nat) (text : String) : Except Misuse (Option Nat) :=
  match old, wholeNumber? text with
  | none, some value =>
      if 0 ≤ value ∧ value < Nat.pow 2 32 then .ok (some value.toNat) else .error .wrong
  | _, _ => .error .wrong

def readCall (texts : List String) (repeats : Option Nat) : List String → Except Misuse Action
  | [] =>
      match texts with
      | [method] => .ok (.call method "[]" (repeats.getD 1))
      | [method, params] => .ok (.call method params (repeats.getD 1))
      | _ => .error .wrong
  | argument :: rest =>
      match token argument, rest with
      | .plain text, rest =>
          if texts.length < 2 then readCall (texts ++ [text]) repeats rest else .error .wrong
      | .divider, rest =>
          match texts ++ rest with
          | [method] => .ok (.call method "[]" (repeats.getD 1))
          | [method, params] => .ok (.call method params (repeats.getD 1))
          | _ => .error .wrong
      | .long "repeat" (some value), rest => do readCall texts (← times repeats value) rest
      | .long "repeat" none, value :: rest =>
          if isValue value then do readCall texts (← times repeats value) rest
          else .error .wrong
      | .long "help" none, _ | .short 'h' _, _ => .error .help
      | _, _ => .error .wrong

def readBatch (texts : List String) : List String → Except Misuse Action
  | [] => if texts.isEmpty then .error .wrong else .ok (.batch texts)
  | argument :: rest =>
      match token argument with
      | .plain text => readBatch (texts ++ [text]) rest
      | .divider =>
          if (texts ++ rest).isEmpty then .error .wrong else .ok (.batch (texts ++ rest))
      | .long "help" none | .short 'h' _ => .error .help
      | _ => .error .wrong

def readHelp : List String → Misuse
  | [] | ["call"] | ["batch"] | ["help"] => .help
  | _ => .wrong

def defaultUrl : String := "http://127.0.0.1:8545"

def Arguments.read (arguments : List String) : Except Misuse Arguments := do
  let (options, command, rest) ← readOptions {} arguments
  let action ← match command with
    | "call" => readCall [] none rest
    | "batch" => readBatch [] rest
    | "help" => .error (readHelp rest)
    | _ => .error .wrong
  return {
    url := options.url.getD defaultUrl
    config := options.config
    allowList := options.allowList
    suspendable := options.suspendable
    action }

end RequestLayer.Command
