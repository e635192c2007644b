import RequestLayer.Digest.Keccak
import RequestLayer.Json.Printer

set_option autoImplicit false

namespace RequestLayer

inductive Context where
  | caller (id : String)
  | task (number : Nat)
  | thread (number : Nat)
deriving DecidableEq, Repr

namespace Context

def text : Context → String
  | .caller id => "ctx:" ++ id
  | .task number => s!"task:{number}"
  | .thread number => s!"thread:ThreadId({number})"

def current (names : List String) (runningTask : Option Nat) (runningThread : Nat) : Context :=
  match names.getLast?, runningTask with
  | some id, _ => .caller id
  | none, some number => .task number
  | none, none => .thread runningThread

end Context

abbrev Fingerprint := Bytes32

namespace Fingerprint

def lengthBytes (length : Nat) : List UInt8 :=
  [24, 16, 8, 0].map fun shift => UInt8.ofNat (length >>> shift)

def framed (text : String) : List UInt8 :=
  lengthBytes text.utf8ByteSize ++ text.toUTF8.data.toList

-- Each part is framed, so that the bytes of one are never taken for those of another.
def preimage (context : Context) (method : String) (params : List Json) : List UInt8 :=
  framed context.text ++ framed method ++ framed (Json.array params).compact

def ofCall (context : Context) (method : String) (params : List Json) : Fingerprint :=
  Keccak.digest (preimage context method params)

def text (fingerprint : Fingerprint) : String :=
  Hexadecimal.marked fingerprint

end Fingerprint

end RequestLayer
