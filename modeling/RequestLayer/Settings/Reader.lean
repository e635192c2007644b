import RequestLayer.Json.Reader
import RequestLayer.Settings.Basic

set_option autoImplicit false

namespace RequestLayer

namespace Json.Reader

variable {α ρ : Type}

-- A scalar is read to be named.
def mismatched (expected : String) : Reader α
  | '[' :: _ => .error (.mismatch (.kind .sequence expected))
  | '\x7b' :: _ => .error (.mismatch (.kind .map expected))
  | text => do
      let (found, _) ← value 0 text
      .error (.mismatch (.kind found.shape expected))

def atValue (reader : Reader α) : Reader α := fun text =>
  match skipBlanks text with
  | [] => .error .truncated
  | place => reader place

def boolean : Reader Bool := atValue fun text =>
  match text with
  | 't' :: rest => do
      let (_, rest) ← word ['r', 'u', 'e'] rest
      return (true, rest)
  | 'f' :: rest => do
      let (_, rest) ← word ['a', 'l', 's', 'e'] rest
      return (false, rest)
  | _ => mismatched "a boolean" text

def text : Reader String := atValue fun text =>
  match text with
  | '"' :: rest => string rest
  | _ => mismatched "a string" text

def natural (limit : Nat) (expected : String) : Reader Nat := atValue fun text =>
  match text with
  | [] => .error .truncated
  | c :: _ =>
      if c = '-' ∨ c.isDigit then do
        match ← number text with
        | (.integer value, rest) =>
            if 0 ≤ value ∧ value < limit then return (value.toNat, rest)
            else .error (.mismatch (.range value expected))
        | (found, _) => .error (.mismatch (.kind (.number found) expected))
      else mismatched expected text

def optional (reader : Reader α) : Reader (Option α) := atValue fun text =>
  match text with
  | 'n' :: rest => do
      let (_, rest) ← word ['u', 'l', 'l'] rest
      return (none, rest)
  | _ => do
      let (found, rest) ← reader text
      return (some found, rest)

def texts : Reader (List String) := atValue fun place =>
  match place with
  | '[' :: rest => do
      let item (done : List String) : Reader (List String) := fun place => do
        let (found, rest) ← text place
        return (found :: done, rest)
      let (found, rest) ← sequence ']' item [] rest
      return (found.reverse, rest)
  | _ => mismatched "a sequence" place

def unit : Reader Unit := atValue fun text =>
  match text with
  | 'n' :: rest => word ['u', 'l', 'l'] rest
  | _ => mismatched "unit" text

def variant (known : List (String × α)) (name : String) : Except Fault α :=
  match known.lookup name with
  | some value => .ok value
  | none => .error (.mismatch (.unknownVariant name (known.map Prod.fst)))

def choice (known : List (String × α)) : Reader α := atValue fun place =>
  match place with
  | '"' :: rest => do
      let (name, rest) ← string rest
      return (← variant known name, rest)
  | '\x7b' :: rest => do
      let (name, rest) ← atValue (fun place => match place with
        | '"' :: rest => string rest
        | _ => .error .malformed) rest
      let found ← variant known name
      let (_, rest) ← colon rest
      let (_, rest) ← unit rest
      match skipBlanks rest with
      | [] => .error .truncated
      | '\x7d' :: rest => return (found, rest)
      | _ => .error .malformed
  | _ => .error .malformed

structure Field (ρ : Type) where
  name : String
  read : ρ → Reader ρ

def Field.of (name : String) (reader : Reader α) (set : ρ → α → ρ) : Field ρ where
  name
  read record := fun text => do
    let (found, rest) ← reader text
    return (set record found, rest)

-- A name is judged when it is read, before its value.
def member (fields : List (Field ρ)) : ρ × List String → Reader (ρ × List String) :=
  fun (record, seen) text => do
    let (name, rest) ← key text
    match fields.find? (·.name == name) with
    | none => .error (.mismatch (.unknownField name (fields.map Field.name)))
    | some field =>
        if name ∈ seen then .error (.mismatch (.duplicateField name))
        else
          let (_, rest) ← colon rest
          let (record, rest) ← field.read record rest
          return ((record, name :: seen), rest)

def positional : List (Field ρ) → Bool → ρ → Reader ρ
  | [], _, record, text =>
      match skipBlanks text with
      | [] => .error .truncated
      | ']' :: rest => .ok (record, rest)
      | _ => .error .malformed
  | field :: others, first, record, text => do
      match ← nextElement ']' first text with
      | (none, rest) => return (record, rest)
      | (some place, _) =>
          let (record, rest) ← field.read record place
          positional others false record rest

def structured (name : String) (fields : List (Field ρ)) (start : ρ) : Reader ρ :=
  atValue fun text =>
    match text with
    | '\x7b' :: rest => do
        let ((record, _), rest) ← sequence '\x7d' (member fields) (start, []) rest
        return (record, rest)
    | '[' :: rest => positional fields true start rest
    | _ => mismatched s!"struct {name}" text

end Json.Reader

open Json.Reader

def RetrySettings.reader : Json.Reader RetrySettings :=
  structured "RetrySettings"
    [.of "retries" (natural (Nat.pow 2 32) "u32") fun record retries => { record with retries },
      .of "backoff_ms" (natural (Nat.pow 2 64) "u64") fun record backoffMilliseconds =>
        { record with backoffMilliseconds },
      .of "method_allowlist" (optional texts) fun record methods => { record with methods }]
    {}

namespace Settings

def reader : Json.Reader Settings :=
  structured "ClientConfig"
    [.of "cache_enabled" boolean fun record cacheEnabled => { record with cacheEnabled },
      .of "cache_capacity" (optional (natural (Nat.pow 2 64) "usize")) fun record cacheCapacity =>
        { record with cacheCapacity },
      .of "validation_threshold"
        (optional (choice [("finalized", Freshness.Threshold.finalized), ("safe", .safe)]))
        fun record threshold => { record with threshold },
      .of "cacheable_methods" (optional texts) fun record cacheable => { record with cacheable },
      .of "cache_allow_list" texts fun record allowed => { record with allowed },
      .of "retry" RetrySettings.reader fun record retry => { record with retry },
      .of "stale_check_delay_secs" (optional (natural (Nat.pow 2 64) "u64")) fun record staleAfter =>
        { record with staleAfter }]
    {}

def read (text : String) : Except Json.Reader.Fault Settings :=
  whole reader text

end Settings

end RequestLayer
