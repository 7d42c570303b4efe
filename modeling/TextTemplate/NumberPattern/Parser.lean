import TextTemplate.NumberPattern.Basic

/-!
Reading number patterns. Each part has a reader that takes it off the front of the text if it is
there; what no reader takes makes the pattern invalid.
-/
namespace TextTemplate.NumberPattern

/-- The greatest width or precision of a pattern. -/
def maxField : Nat := 1024

inductive Error where
  | unknownStyle (c : Char)
  | trailing (rest : String)
  | invalidWidth (digits : String)
  | invalidPrecision (digits : String)
deriving DecidableEq, Repr

def Error.message : Error → String
  | unknownStyle c => "unknown format type '" ++ c.toString ++ "'"
  | trailing rest => "unexpected characters '" ++ rest ++ "' in format spec"
  | invalidWidth digits => "invalid width '" ++ digits ++ "' (at most 1024)"
  | invalidPrecision digits => "invalid precision '" ++ digits ++ "' (at most 1024)"

/-- A part that is one character of a kind. -/
def takeChar {α : Type} (kind : Char → Option α) : List Char → Option α × List Char
  | [] => (none, [])
  | c :: cs =>
    match kind c with
    | some a => (some a, cs)
    | none => (none, c :: cs)

/-- A mark that is there or not. -/
def takeMark (mark : Char) : List Char → Bool × List Char
  | [] => (false, [])
  | c :: cs => if c = mark then (true, cs) else (false, c :: cs)

/-- A side, with the fill in front of it if the second character is one too. -/
def takeAlignment (cs : List Char) : Option Alignment × List Char :=
  match cs with
  | fill :: c :: rest =>
    match Align.ofChar? c with
    | some side => (some ⟨some fill, side⟩, rest)
    | none =>
      match Align.ofChar? fill with
      | some side => (some ⟨none, side⟩, c :: rest)
      | none => (none, cs)
  | [c] =>
    match Align.ofChar? c with
    | some side => (some ⟨none, side⟩, [])
    | none => (none, cs)
  | [] => (none, [])

/-- Whether a zero before `cs` asks for zero padding and is not the width itself. -/
def allowsZeroPad : List Char → Bool
  | [] => true
  | c :: _ => c.isDigit || c == ',' || c == '.' || c == '~' || (NumberStyle.ofChar? c).isSome

def takeZeroPad : List Char → Bool × List Char
  | '0' :: cs => if allowsZeroPad cs then (true, cs) else (false, '0' :: cs)
  | cs => (false, cs)

/-- The number that a non-empty run of digits writes, if a field may be that large. -/
def bounded? (digits : List Char) : Option Nat :=
  let n := Nat.ofDigitChars 10 digits 0
  if n ≤ maxField then some n else none

def takeWidth (cs : List Char) : Except Error (Option Nat × List Char) :=
  let digits := cs.takeWhile Char.isDigit
  if digits.isEmpty then .ok (none, cs)
  else
    match bounded? digits with
    | some n => .ok (some n, cs.dropWhile Char.isDigit)
    | none => .error (.invalidWidth (String.ofList digits))

def takePrecision : List Char → Except Error (Option Nat × List Char)
  | '.' :: cs =>
    let digits := cs.takeWhile Char.isDigit
    if digits.isEmpty then .error (.invalidPrecision "")
    else
      match bounded? digits with
      | some n => .ok (some n, cs.dropWhile Char.isDigit)
      | none => .error (.invalidPrecision (String.ofList digits))
  | cs => .ok (none, cs)

/-- The style, after which nothing may follow. -/
def takeStyle : List Char → Except Error (Option NumberStyle)
  | [] => .ok none
  | c :: cs =>
    match NumberStyle.ofChar? c with
    | none => .error (.unknownStyle c)
    | some style => if cs.isEmpty then .ok (some style) else .error (.trailing (String.ofList cs))

def parseChars (cs : List Char) : Except Error NumberPattern := do
  let (alignment, cs) := takeAlignment cs
  let (sign, cs) := takeChar SignMode.ofChar? cs
  let (symbol, cs) := takeChar Symbol.ofChar? cs
  let (zeroPad, cs) := takeZeroPad cs
  let (width, cs) ← takeWidth cs
  let (grouping, cs) := takeMark ',' cs
  let (precision, cs) ← takePrecision cs
  let (trim, cs) := takeMark '~' cs
  let style ← takeStyle cs
  return { alignment, sign, symbol, zeroPad, width, grouping, precision, trim, style }

def parse (pattern : String) : Except Error NumberPattern :=
  parseChars pattern.toList

end TextTemplate.NumberPattern
