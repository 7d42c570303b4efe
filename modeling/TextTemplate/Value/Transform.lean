import TextTemplate.Text.Blank
import TextTemplate.Text.LetterCase
import TextTemplate.Value.Text

/-!
What the filters do to a value. All but `length` leave an absent value as it is and turn any
other one into text. Lengths and positions count characters.
-/
namespace TextTemplate

/-- Where text is cut or filled up. -/
inductive Side where
  | right
  | left
  | middle
deriving DecidableEq, Repr

def Side.ofKeyword? (word : String) : Option Side :=
  if word = "right" then some .right
  else if word = "left" then some .left
  else if word = "middle" ∨ word = "center" then some .middle
  else none

namespace Text

def ellipsis : Char := '\u2026'

def takeRight (n : Nat) (cs : List Char) : List Char :=
  cs.drop (cs.length - n)

/-- A position in a text of that length. A negative one counts from the end, and both stop at
the ends of the text. -/
def clampPosition (position : Int) (length : Nat) : Nat :=
  if position < 0 then length - position.natAbs else min position.natAbs length

/-- The characters between two positions, up to the end if there is no second one. -/
def slice (start : Int) (stop : Option Int) (cs : List Char) : List Char :=
  let first := clampPosition start cs.length
  let last := stop.elim cs.length (clampPosition · cs.length)
  (cs.drop first).take (last - first)

/-- The text shortened to `width` characters, one of which is an ellipsis. -/
def truncate (width : Nat) (side : Side) (cs : List Char) : List Char :=
  if cs.length ≤ width then cs
  else
    let keep := width - 1
    match side with
    | .right => cs.take keep ++ [ellipsis]
    | .left => ellipsis :: takeRight keep cs
    | .middle => cs.take ((keep + 1) / 2) ++ ellipsis :: takeRight (keep / 2) cs

/-- The text filled up with spaces to `width` characters. -/
def pad (width : Nat) (side : Side) (cs : List Char) : List Char :=
  let missing := width - cs.length
  let before :=
    match side with
    | .right => 0
    | .left => missing
    | .middle => missing / 2
  List.replicate before ' ' ++ cs ++ List.replicate (missing - before) ' '

end Text

namespace Value

def mapText (f : List Char → List Char) (v : Value) : Value :=
  if v.isNullish then v else str (String.ofList (f v.chars))

def lower : Value → Value := mapText Text.toLower

def upper : Value → Value := mapText Text.toUpper

/-- Lower case under the root locale, which is that of no locale. -/
def lowerLocale : Value → Value := lower

/-- Upper case under the root locale, which is that of no locale. -/
def upperLocale : Value → Value := upper

def trim : Value → Value := mapText Text.trim

/-- The first `n` characters. -/
def left (n : Nat) : Value → Value := mapText (·.take n)

/-- The last `n` characters. -/
def right (n : Nat) : Value → Value := mapText (Text.takeRight n)

/-- `count` characters from position `start` on. -/
def mid (start count : Nat) : Value → Value := mapText fun cs => (cs.drop start).take count

def slice (start : Int) (stop : Option Int) : Value → Value := mapText (Text.slice start stop)

/-- The number of characters of the rendered value. -/
def length (v : Value) : Value := number (.ofNat v.chars.length)

def truncate (width : Nat) (side : Side) : Value → Value := mapText (Text.truncate width side)

def pad (width : Nat) (side : Side) : Value → Value := mapText (Text.pad width side)

end TextTemplate.Value
