import TextTemplate.Double.Text
import TextTemplate.NumberPattern.Basic

/-!
Writing a number as a pattern asks. A finite number has a lead, made of its sign and its symbol,
and digits; zeros may stand between the two, and the field around both is filled up to the width.
A number that is not finite is a word with a sign, whatever the style.
-/
namespace TextTemplate.NumberPattern

/-- Where the exponent or the per cent sign begins. -/
def isSuffixStart (c : Char) : Bool :=
  c == 'e' || c == 'E' || c == '%'

/-- The digits without the zeros that end the fraction, and without a point that then stands
last. What follows the fraction is kept. -/
def trimFraction (cs : List Char) : List Char :=
  let body := cs.takeWhile fun c => !isSuffixStart c
  let suffix := cs.dropWhile fun c => !isSuffixStart c
  if body.contains '.' then
    ((body.reverse.dropWhile (· == '0')).dropWhile (· == '.')).reverse ++ suffix
  else cs

/-- A comma in front of every group of three digits but the first. -/
def groupDigits : List Char → List Char
  | [] => []
  | c :: cs =>
    if cs.length % 3 = 0 && !cs.isEmpty then c :: ',' :: groupDigits cs else c :: groupDigits cs

/-- The digits with their integer part in groups of three. -/
def groupThousands (cs : List Char) : List Char :=
  groupDigits (cs.takeWhile Char.isDigit) ++ cs.dropWhile Char.isDigit

/-- Whether the mantissa has only zeros. -/
def showsZero (cs : List Char) : Bool :=
  (cs.takeWhile fun c => !isSuffixStart c).all fun c => c == '0' || c == '.'

/-- Scientific form, with the fewest digits or with the given number of decimal places. -/
def scientificChars (marker : Char) (precision : Option Nat) (m : Magnitude) : List Char :=
  match precision with
  | none => m.shortest.scientific marker
  | some places =>
    if m.isZero then Decimal.scientificDigits marker (List.replicate (places + 1) '0') 0
    else (m.significant (places + 1)).scientific marker

/-- `precision` significant digits, at least one: scientific if the exponent of the rounded
number is below -4 or not below the number of digits, and positional otherwise. -/
def generalChars (precision : Nat) (m : Magnitude) : List Char :=
  let count := max 1 precision
  if m.isZero then m.fixed (count - 1)
  else
    let rounded := m.significant count
    let leading := rounded.exponent + (count - 1 : Nat)
    if leading < -4 ∨ (count : Int) ≤ leading then rounded.scientific 'e'
    else m.fixed ((count : Int) - 1 - leading).toNat

/-- A hundred times the number before the per cent sign. -/
def percentChars (precision : Option Nat) (m : Magnitude) : List Char :=
  let places (m : Magnitude) :=
    match precision with
    | some places => m.fixed places
    | none => trimFraction (m.fixed 6)
  match (Double.finite false m).timesHundred with
  | .finite _ m => places m ++ ['%']
  | _ => ['i', 'n', 'f', '%']

/-- The greatest integer that the integer styles show. -/
def maxInteger : Nat := 2 ^ 64 - 1

/-- The nearest integer, a half going up, and at most the greatest that can be shown. -/
def nearestInteger (m : Magnitude) : Nat :=
  min (Decimal.roundHalfUp m.units Magnitude.one) maxInteger

def integerChars (style : NumberStyle) (m : Magnitude) : List Char :=
  let digits := Nat.toDigits (style.radix?.getD 10) (nearestInteger m)
  if style = .hexUpper then digits.map Char.toUpper else digits

/-- The digits of a magnitude, before trimming and grouping. -/
def styledChars (p : NumberPattern) (m : Magnitude) : List Char :=
  match p.style with
  | some .binary => integerChars .binary m
  | some .octal => integerChars .octal m
  | some .decimal => integerChars .decimal m
  | some .hex => integerChars .hex m
  | some .hexUpper => integerChars .hexUpper m
  | some .fixed => m.fixed (p.precision.getD 6)
  | some .exp => scientificChars 'e' p.precision m
  | some .expUpper => scientificChars 'E' p.precision m
  | some .general => generalChars (p.precision.getD 6) m
  | some .percent => percentChars p.precision m
  | none =>
    match p.precision with
    | some digits => trimFraction (generalChars digits m)
    | none => Double.magnitudeChars m

/-- Whether a magnitude is shown as something other than zero, and so keeps a minus. -/
def showsNonzero (p : NumberPattern) (m : Magnitude) : Bool :=
  if p.style.any (·.isInteger) then nearestInteger m != 0 else !showsZero (p.styledChars m)

/-- The digits of a magnitude as they are written. -/
def digitChars (p : NumberPattern) (m : Magnitude) : List Char :=
  let digits := p.styledChars m
  let digits := if p.trim then trimFraction digits else digits
  if p.grouping && !p.style.any (·.radix?.isSome) then groupThousands digits else digits

def signChars (p : NumberPattern) (negative : Bool) : List Char :=
  if negative then ['-']
  else
    match p.sign with
    | some .plus => ['+']
    | some .space => [' ']
    | _ => []

def symbolChars (p : NumberPattern) : List Char :=
  match p.symbol, p.style with
  | some .currency, _ => ['$']
  | some .alternate, some .binary => ['0', 'b']
  | some .alternate, some .octal => ['0', 'o']
  | some .alternate, some .hex => ['0', 'x']
  | some .alternate, some .hexUpper => ['0', 'X']
  | _, _ => []

/-- The text on its side of a field of the pattern's width. -/
def align (p : NumberPattern) (cs : List Char) : List Char :=
  let missing := p.width.getD 0 - cs.length
  let fill := (p.alignment.bind (·.fill)).getD ' '
  match p.alignment.elim .right (·.side) with
  | .left => cs ++ List.replicate missing fill
  | .right => List.replicate missing fill ++ cs
  | .center =>
    List.replicate (missing / 2) fill ++ cs ++ List.replicate (missing - missing / 2) fill

/-- How many zeros the pattern puts between a lead and digits of these lengths. -/
def zeroCount (p : NumberPattern) (lead digits : Nat) : Nat :=
  if p.zeroPad then p.width.getD 0 - (lead + digits) else 0

def formatChars (p : NumberPattern) (x : Double) : List Char :=
  match x with
  | .nan => p.align (p.signChars false ++ ['N', 'a', 'N'])
  | .infinite negative =>
    p.align (p.signChars negative ++ ['I', 'n', 'f', 'i', 'n', 'i', 't', 'y'])
  | .finite negative m =>
    let digits := p.digitChars m
    let lead := p.signChars (negative && p.showsNonzero m) ++ p.symbolChars
    let zeros := List.replicate (p.zeroCount lead.length digits.length) '0'
    p.align (lead ++ zeros ++ digits)

/-- The number as the pattern writes it. -/
def format (p : NumberPattern) (x : Double) : String :=
  String.ofList (p.formatChars x)

end TextTemplate.NumberPattern
