import TextTemplate.Text.CodeRanges

/-!
White space. `isBlank` is the Unicode property White_Space; between the tokens of an
interpolation the byte order mark is skipped as well.
-/
namespace TextTemplate.Text

def blankRanges : CodeRanges :=
  [(0x9, 0xD), (0x20, 0x20), (0x85, 0x85), (0xA0, 0xA0), (0x1680, 0x1680), (0x2000, 0x200A),
   (0x2028, 0x2029), (0x202F, 0x202F), (0x205F, 0x205F), (0x3000, 0x3000)]

def isBlank (c : Char) : Bool :=
  blankRanges.contains c

/-- What may stand between two tokens. -/
def isGap (c : Char) : Bool :=
  isBlank c || c == '\uFEFF'

/-- The text without the blanks at its end. -/
def trimRight (cs : List Char) : List Char :=
  (cs.reverse.dropWhile isBlank).reverse

/-- The text without the blanks at either end. -/
def trim (cs : List Char) : List Char :=
  trimRight (cs.dropWhile isBlank)

end TextTemplate.Text
