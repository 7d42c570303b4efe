/-!
Patterns for numbers, such as `$,.2f`. A pattern reads
`[[fill]align][sign][symbol][0][width][,][.precision][~][style]`, and every part may be missing.
-/
namespace TextTemplate

/-- On which side of a field its content stands. -/
inductive Align where
  | left
  | center
  | right
deriving DecidableEq, Repr

structure Alignment where
  fill : Option Char
  side : Align
deriving DecidableEq, Repr

/-- What stands in front of a number that is not negative. -/
inductive SignMode where
  | plus
  | minus
  | space
deriving DecidableEq, Repr

/-- A dollar sign, or the marker of the radix. -/
inductive Symbol where
  | currency
  | alternate
deriving DecidableEq, Repr

inductive NumberStyle where
  | binary
  | octal
  | decimal
  | hex
  | hexUpper
  | exp
  | expUpper
  | fixed
  | general
  | percent
deriving DecidableEq, Repr

structure NumberPattern where
  alignment : Option Alignment := none
  sign : Option SignMode := none
  symbol : Option Symbol := none
  /-- Fill the field with zeros behind the sign and the symbol. -/
  zeroPad : Bool := false
  width : Option Nat := none
  /-- Separate thousands by commas. -/
  grouping : Bool := false
  /-- Decimal places, or significant digits where the style counts those. -/
  precision : Option Nat := none
  /-- Drop the zeros at the end of the fraction. -/
  trim : Bool := false
  style : Option NumberStyle := none
deriving DecidableEq, Repr

def Align.ofChar? : Char → Option Align
  | '<' => some .left
  | '^' => some .center
  | '>' => some .right
  | _ => none

def Align.char : Align → Char
  | .left => '<'
  | .center => '^'
  | .right => '>'

def SignMode.ofChar? : Char → Option SignMode
  | '+' => some .plus
  | '-' => some .minus
  | ' ' => some .space
  | _ => none

def SignMode.char : SignMode → Char
  | .plus => '+'
  | .minus => '-'
  | .space => ' '

def Symbol.ofChar? : Char → Option Symbol
  | '$' => some .currency
  | '#' => some .alternate
  | _ => none

def Symbol.char : Symbol → Char
  | .currency => '$'
  | .alternate => '#'

def NumberStyle.ofChar? : Char → Option NumberStyle
  | 'b' => some .binary
  | 'o' => some .octal
  | 'd' => some .decimal
  | 'x' => some .hex
  | 'X' => some .hexUpper
  | 'e' => some .exp
  | 'E' => some .expUpper
  | 'f' => some .fixed
  | 'g' => some .general
  | '%' => some .percent
  | _ => none

def NumberStyle.char : NumberStyle → Char
  | .binary => 'b'
  | .octal => 'o'
  | .decimal => 'd'
  | .hex => 'x'
  | .hexUpper => 'X'
  | .exp => 'e'
  | .expUpper => 'E'
  | .fixed => 'f'
  | .general => 'g'
  | .percent => '%'

/-- Whether the style shows a whole number. -/
def NumberStyle.isInteger : NumberStyle → Bool
  | .binary | .octal | .decimal | .hex | .hexUpper => true
  | _ => false

/-- The base of a style that names one other than ten. -/
def NumberStyle.radix? : NumberStyle → Option Nat
  | .binary => some 2
  | .octal => some 8
  | .hex | .hexUpper => some 16
  | _ => none

end TextTemplate
