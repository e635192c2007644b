import RequestLayer.Hexadecimal
import RequestLayer.Json.Mismatch

set_option autoImplicit false

namespace RequestLayer.Json.Reader

inductive Fault where
  | malformed
  | truncated
  | mismatch (cause : Mismatch)

end Json.Reader

abbrev Json.Reader (α : Type) := List Char → Except Json.Reader.Fault (α × List Char)

namespace Json.Reader

def isBlank (c : Char) : Bool :=
  c = ' ' || c = '\t' || c = '\n' || c = '\r'

def skipBlanks (text : List Char) : List Char :=
  text.dropWhile isBlank

def word : List Char → Reader Unit
  | [], text => .ok ((), text)
  | _ :: _, [] => .error .truncated
  | expected :: others, c :: rest =>
      if c = expected then word others rest else .error .malformed

-- A text of fewer than four bytes ends too early.
def hexUnit : Reader Nat
  | a :: b :: c :: d :: rest =>
      match Hexadecimal.number? [a, b, c, d] with
      | some unit => .ok (unit, rest)
      | none => .error .malformed
  | text =>
      .error (if (String.ofList text).utf8ByteSize < 4 then .truncated else .malformed)

def lowSurrogate (high : Nat) : Reader Char
  | '\\' :: 'u' :: rest => do
      let (low, rest) ← hexUnit rest
      if 0xDC00 ≤ low ∧ low ≤ 0xDFFF then
        return (Char.ofNat (0x10000 + (high - 0xD800) * 0x400 + (low - 0xDC00)), rest)
      else .error .malformed
  | [] | ['\\'] => .error .truncated
  | _ => .error .malformed

def escape : Reader Char
  | [] => .error .truncated
  | c :: rest =>
      match c with
      | '"' | '\\' | '/' => .ok (c, rest)
      | 'b' => .ok ('\x08', rest)
      | 'f' => .ok ('\x0c', rest)
      | 'n' => .ok ('\n', rest)
      | 'r' => .ok ('\r', rest)
      | 't' => .ok ('\t', rest)
      | 'u' => do
          let (unit, rest) ← hexUnit rest
          if unit < 0xD800 ∨ 0xDFFF < unit then return (Char.ofNat unit, rest)
          else if 0xDC00 ≤ unit then .error .malformed
          else lowSurrogate unit rest
      | _ => .error .malformed

theorem hexUnit_length {text rest : List Char} {unit : Nat} (h : hexUnit text = .ok (unit, rest)) :
    rest.length < text.length := by
  unfold hexUnit at h
  split at h
  · split at h
    · simp only [Except.ok.injEq, Prod.mk.injEq] at h
      simp [← h.2]
      omega
    · cases h
  · cases h

theorem lowSurrogate_length {high : Nat} {text rest : List Char} {c : Char}
    (h : lowSurrogate high text = .ok (c, rest)) : rest.length < text.length := by
  unfold lowSurrogate at h
  split at h
  · simp only [bind, Except.bind] at h
    split at h
    · cases h
    · rename_i _ found unit
      have shorter := hexUnit_length unit
      split at h
      · simp only [pure, Except.pure, Except.ok.injEq, Prod.mk.injEq] at h
        simp only [List.length_cons, ← h.2]
        omega
      · cases h
  · cases h
  · cases h
  · cases h

theorem escape_length {text rest : List Char} {c : Char} (h : escape text = .ok (c, rest)) :
    rest.length < text.length := by
  unfold escape at h
  split at h
  · cases h
  · simp only [bind, Except.bind, pure, Except.pure] at h
    split at h
    case h_9 =>
      split at h
      · cases h
      · rename_i unit
        have shorter := hexUnit_length unit
        split at h
        · simp only [Except.ok.injEq, Prod.mk.injEq] at h
          simp only [List.length_cons, ← h.2]
          omega
        · split at h
          · cases h
          · have := lowSurrogate_length h
            simp only [List.length_cons]
            omega
    all_goals cases h <;> simp

def stringRest : Reader (List Char)
  | [] => .error .truncated
  | '"' :: rest => .ok ([], rest)
  | '\\' :: rest =>
      match _read : escape rest with
      | .error fault => .error fault
      | .ok (c, rest) => do
          let (others, rest) ← stringRest rest
          return (c :: others, rest)
  | c :: rest =>
      if c.toNat < 0x20 then .error .malformed
      else do
        let (others, rest) ← stringRest rest
        return (c :: others, rest)
termination_by text => text.length
decreasing_by
  · have := escape_length ‹_›
    simp only [List.length_cons]
    omega
  · simp

def string : Reader String := fun text => do
  let (chars, rest) ← stringRest text
  return (String.ofList chars, rest)

def digits (text : List Char) : List Nat × List Char :=
  ((text.takeWhile Char.isDigit).map fun c => c.toNat - 48, text.dropWhile Char.isDigit)

def accumulate (value : Nat) : List Nat → Nat × List Nat
  | [] => (value, [])
  | digit :: rest =>
      if value * 10 + digit < Nat.pow 2 64 then accumulate (value * 10 + digit) rest
      else (value, digit :: rest)

def someDigits : Reader (List Nat) := fun text =>
  match digits text with
  | ([], []) => .error .truncated
  | ([], _) => .error .malformed
  | found => .ok found

def wholeDigits : Reader (List Nat) := fun text =>
  match someDigits text with
  | .ok (0 :: _ :: _, _) => .error .malformed
  | found => found

def fractionDigits? : Reader (Option (List Nat))
  | '.' :: rest => do
      let (found, rest) ← someDigits rest
      return (some found, rest)
  | text => .ok (none, text)

def exponent? : Reader (Option Int)
  | [] => .ok (none, [])
  | c :: rest =>
      if c = 'e' ∨ c = 'E' then do
        let (negative, rest) := match rest with
          | '+' :: rest => (false, rest)
          | '-' :: rest => (true, rest)
          | _ => (false, rest)
        let (found, rest) ← someDigits rest
        let power : Int := found.foldl (fun value (digit : Nat) => value * 10 + digit) 0
        return (some (if negative then -power else power), rest)
      else .ok (none, c :: rest)

-- An integer that fits 64 bits is exact, except for a negative zero; any other number is its
-- leading digits, as many as fit 64 bits, times a power of ten.
def numberOf? (negative : Bool) (whole : List Nat) (fraction : Option (List Nat))
    (power : Option Int) : Option Number :=
  let (start, dropped) := accumulate 0 whole
  match fraction, power with
  | none, none =>
      if dropped.isEmpty ∧ (negative → 0 < start ∧ start ≤ Nat.pow 2 63) then
        some (.integer (if negative then -start else start))
      else (Binary64.scaled? negative start dropped.length).map .fraction
  | _, _ =>
      let places := fraction.getD []
      let (significand, left) := accumulate start places
      let taken : Int := places.length - left.length
      (Binary64.scaled? negative significand (dropped.length - taken + power.getD 0)).map .fraction

def number : Reader Number := fun text => do
  let (negative, text) := match text with
    | '-' :: rest => (true, rest)
    | _ => (false, text)
  let (whole, text) ← wholeDigits text
  let (fraction, text) ← fractionDigits? text
  let (power, text) ← exponent? text
  match numberOf? negative whole fraction power with
  | some value => return (value, text)
  | none => .error .malformed

def nextElement (close : Char) (first : Bool) (text : List Char) :
    Except Fault (Option (List Char) × List Char) :=
  match skipBlanks text with
  | [] => .error .truncated
  | c :: rest =>
      if c = close then .ok (none, rest)
      else if first then .ok (some (c :: rest), [])
      else if c = ',' then
        match skipBlanks rest with
        | [] => .error .truncated
        | c :: rest => if c = close then .error .malformed else .ok (some (c :: rest), [])
      else .error .malformed

-- Every element after the first takes a comma, so there are no more rounds than characters.
def elements {σ : Type} (close : Char) (element : σ → Reader σ) :
    Nat → Bool → σ → Reader σ
  | 0, _, _, _ => .error .truncated
  | rounds + 1, first, state, text => do
      match ← nextElement close first text with
      | (none, rest) => return (state, rest)
      | (some place, _) =>
          let (state, rest) ← element state place
          elements close element rounds false state rest

def sequence {σ : Type} (close : Char) (element : σ → Reader σ) (start : σ) : Reader σ :=
  fun text => elements close element (text.length + 1) true start text

def key : Reader String
  | '"' :: rest => string rest
  | _ => .error .malformed

def colon : Reader Unit := fun text =>
  match skipBlanks text with
  | [] => .error .truncated
  | ':' :: rest => .ok ((), rest)
  | _ => .error .malformed

def depthLimit : Nat := 127

def value : Nat → Reader Json
  | depth, text =>
      match skipBlanks text with
      | [] => .error .truncated
      | c :: rest =>
          match c with
          | 'n' => do
              let (_, rest) ← word ['u', 'l', 'l'] rest
              return (.null, rest)
          | 't' => do
              let (_, rest) ← word ['r', 'u', 'e'] rest
              return (.bool true, rest)
          | 'f' => do
              let (_, rest) ← word ['a', 'l', 's', 'e'] rest
              return (.bool false, rest)
          | '"' => do
              let (text, rest) ← string rest
              return (.string text, rest)
          | '[' =>
              match depth with
              | 0 => .error .malformed
              | depth + 1 => do
                  let item (done : List Json) : Reader (List Json) := fun text => do
                    let (item, rest) ← value depth text
                    return (item :: done, rest)
                  let (items, rest) ← sequence ']' item [] rest
                  return (.array items.reverse, rest)
          | '\x7b' =>
              match depth with
              | 0 => .error .malformed
              | depth + 1 => do
                  let field (done : Fields) : Reader Fields := fun text => do
                    let (name, rest) ← key text
                    let (_, rest) ← colon rest
                    let (value, rest) ← value depth rest
                    return (Fields.insert name value done, rest)
                  let (fields, rest) ← sequence '\x7d' field [] rest
                  return (.object fields, rest)
          | c =>
              if c = '-' ∨ c.isDigit then do
                let (found, rest) ← number (c :: rest)
                return (.number found, rest)
              else .error .malformed

def whole {α : Type} (reader : Reader α) (text : String) : Except Fault α := do
  let (found, rest) ← reader text.toList
  if (skipBlanks rest).isEmpty then return found else .error .malformed

end Json.Reader

def Json.read (text : String) : Except Json.Reader.Fault Json :=
  Json.Reader.whole (Json.Reader.value Json.Reader.depthLimit) text

end RequestLayer
