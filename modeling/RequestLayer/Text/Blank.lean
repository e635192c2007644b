import RequestLayer.Text.CodeRanges

set_option autoImplicit false

namespace RequestLayer.Text

def whiteSpace : CodeRanges :=
  [(0x9, 0xd), (0x20, 0x20), (0x85, 0x85), (0xa0, 0xa0), (0x1680, 0x1680), (0x2000, 0x200a),
    (0x2028, 0x2029), (0x202f, 0x202f), (0x205f, 0x205f), (0x3000, 0x3000)]

def isBlank (c : Char) : Bool :=
  whiteSpace.has c

def trim (text : List Char) : List Char :=
  ((text.dropWhile isBlank).reverse.dropWhile isBlank).reverse

-- Nothing after the last line feed is no line.
def lines (text : List Char) : List (List Char) :=
  if text = [] then []
  else
    let line := text.takeWhile (· ≠ '\n')
    line :: lines (text.drop (line.length + 1))
termination_by text.length
decreasing_by
  have := List.length_pos_iff.mpr ‹text ≠ []›
  simp only [List.length_drop]
  omega

end RequestLayer.Text
