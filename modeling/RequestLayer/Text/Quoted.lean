import RequestLayer.Text.GraphemeExtend
import RequestLayer.Text.Unprintable

set_option autoImplicit false

namespace RequestLayer.Text

def isFiller (c : Char) : Bool :=
  c.toNat ∈ [0x115f, 0x1160, 0x3164, 0xffa0]

-- They extend the character before them, but take a place of their own and show there.
def isVoicingMark (c : Char) : Bool :=
  c.toNat ∈ [0xff9e, 0xff9f]

def isHidden (c : Char) : Bool :=
  isUnprintable c || isFiller c || (isGraphemeExtend c && !isVoicingMark c)

def quotedChar (c : Char) : List Char :=
  if c = '"' ∨ c = '\\' then ['\\', c]
  else if c = '\n' then ['\\', 'n']
  else if c = '\r' then ['\\', 'r']
  else if c = '\t' then ['\\', 't']
  else if c.toNat = 0 then ['\\', '0']
  else if isHidden c then
    '\\' :: 'u' :: '\x7b' :: Nat.toDigits 16 c.toNat ++ ['\x7d']
  else [c]

def quoted (text : String) : String :=
  String.ofList ('"' :: text.toList.flatMap quotedChar ++ ['"'])

end RequestLayer.Text
