import TextTemplate.CompileError
import TextTemplate.Text.Blank
import TextTemplate.Text.Columns

/-!
Reports: the message of a fault above the lines of the source that it is about, with the marked
part underlined and labelled. Marks count characters. A mark within one line is drawn below that
line; one over several lines is drawn in the margin, where the lines between the first and the
last are left out.
-/
namespace TextTemplate

/-- What is marked: the characters from `start` up to `stop`. -/
structure Mark where
  start : Nat
  stop : Nat
  label : String
deriving DecidableEq, Repr

/-- A line of a source: how many characters are in front of it, how many it has together with
those that end it, and those that are drawn, which are all but the blanks at its end. -/
structure SourceLine where
  offset : Nat
  size : Nat
  drawn : List Char
deriving DecidableEq, Repr

namespace Report

def isLineEnd (c : Char) : Bool :=
  c == '\n' || c == '\r' || c == '\x0B' || c == '\x0C' || c == '\u0085' || c == '\u2028' ||
    c == '\u2029'

/-- The lines of a text. A carriage return with a line feed ends one line, not two. -/
def splitLines : List Char → List (List Char)
  | [] => []
  | '\r' :: '\n' :: cs => ['\r', '\n'] :: splitLines cs
  | c :: cs =>
    if isLineEnd c then [c] :: splitLines cs
    else
      match splitLines cs with
      | [] => [[c]]
      | line :: lines => (c :: line) :: lines

def withOffsets (offset : Nat) : List (List Char) → List SourceLine
  | [] => []
  | line :: lines =>
    ⟨offset, line.length, Text.trimRight line⟩ :: withOffsets (offset + line.length) lines

def sourceLines (source : List Char) : List SourceLine :=
  withOffsets 0 (splitLines source)

/-- The index of the line that an offset is in, and the line. The offset behind the last
character is in the last line. -/
def lineAt? (offset : Nat) (lines : List SourceLine) : Option (Nat × SourceLine) :=
  let before := lines.takeWhile (·.offset ≤ offset)
  match before.getLast? with
  | none => none
  | some line =>
    if offset ≤ line.offset + line.size then some (before.length - 1, line) else none

/-- How wide a character at an index of its line is drawn. A tab reaches to the next multiple of
four. -/
def width (index : Nat) (c : Char) : Nat :=
  if c = '\t' then (index / 4 + 1) * 4 - index else if Text.isBlank c then 1 else Text.columns c

/-- The drawn characters of a line with spaces for its blanks. -/
def lineChars (drawn : List Char) : List Char :=
  drawn.zipIdx.flatMap fun (c, index) =>
    if Text.isBlank c then List.replicate (width index c) ' ' else [c]

/-- How a character is pointed at: a glyph below its first column and one below the others. -/
structure Pointer where
  head : Char
  tail : Char

def Pointer.chars (p : Pointer) : Nat → List Char
  | 0 => []
  | n + 1 => p.head :: List.replicate n p.tail

/-- The row of pointers below the characters from `index` on, of which there are `count`. Behind
what is drawn of the line every place is one column wide. -/
def pointerRow (pointer : Nat → Pointer) (index : Nat) : Nat → List Char → List Char
  | 0, _ => []
  | count + 1, [] => (pointer index).chars 1 ++ pointerRow pointer (index + 1) count []
  | count + 1, c :: cs =>
    (pointer index).chars (width index c) ++ pointerRow pointer (index + 1) count cs

/-- How many columns the greatest line number takes. -/
def numberWidth (lastLine : Nat) : Nat := (Nat.toDigits 10 lastLine).length

/-- The left border of a row without a line number. -/
def border (numberWidth : Nat) (c : Char) : List Char :=
  List.replicate (numberWidth + 2) ' ' ++ [c]

def numbered (numberWidth index : Nat) (row : List Char) : List Char :=
  let number := Nat.toDigits 10 (index + 1)
  ' ' :: List.replicate (numberWidth - number.length) ' ' ++ number ++ [' ', '│', ' '] ++ row

def unnumbered (numberWidth : Nat) (row : List Char) : List Char :=
  border numberWidth '│' ++ ' ' :: row

/-- The rows of a mark within one line. A mark that ends behind its line is not drawn. -/
def inlineRows (numberWidth index : Nat) (line : SourceLine) (mark : Mark) : List (List Char) :=
  if line.offset + line.size < mark.stop then [unnumbered numberWidth []]
  else
    let place := max ((mark.start + mark.stop) / 2) mark.start - line.offset
    let count := mark.stop - line.offset + 2
    let marked (i : Nat) := mark.start ≤ line.offset + i ∧ line.offset + i < mark.stop
    let above (i : Nat) : Pointer :=
      if i = place then if marked i then ⟨'┬', '─'⟩ else ⟨'│', ' '⟩
      else if marked i then ⟨'─', '─'⟩
      else ⟨' ', ' '⟩
    let below (i : Nat) : Pointer :=
      if i < place then ⟨' ', ' '⟩ else if i = place then ⟨'╰', '─'⟩ else ⟨'─', '─'⟩
    [ numbered numberWidth index (lineChars line.drawn),
      unnumbered numberWidth (pointerRow above 0 count line.drawn),
      unnumbered numberWidth (pointerRow below 0 count line.drawn ++ ' ' :: mark.label.toList) ]

/-- The row that stands for the lines between the first and the last one of a mark. -/
def gapRow (numberWidth : Nat) : List Char :=
  border numberWidth '┆' ++ [' ', '┆', ' ', ' ', ' ']

/-- The rows of the last line of a mark over several lines, with its label. -/
def closingRows (numberWidth index : Nat) (line : SourceLine) (label : String) :
    List (List Char) :=
  let row (c : Char) := pointerRow (fun _ => ⟨c, c⟩) 0 (line.size + 2) line.drawn
  [ numbered numberWidth index (['├', '─', '▶', ' '] ++ lineChars line.drawn),
    unnumbered numberWidth (['│', ' ', ' ', ' '] ++ row ' '),
    unnumbered numberWidth (['╰', '─', '─', '─'] ++ row '─' ++ ' ' :: label.toList) ]

/-- The rows of a mark over several lines. A mark that ends behind its last line is not closed:
that line is left out like those before it. -/
def marginRows (numberWidth : Nat) (first last : Nat × SourceLine) (mark : Mark) :
    List (List Char) :=
  let opening := numbered numberWidth first.1 (['╭', '─', '▶', ' '] ++ lineChars first.2.drawn)
  if last.2.offset + last.2.size < mark.stop then [opening, gapRow numberWidth]
  else
    let gap := if first.1 + 1 < last.1 then [gapRow numberWidth] else []
    opening :: gap ++ closingRows numberWidth last.1 last.2 mark.label

/-- The rows around the source, none if the mark is not within it. -/
def snippetRows (source : List Char) (mark : Mark) : List (List Char) :=
  let lines := sourceLines source
  match lineAt? mark.start lines, lineAt? (max (mark.stop - 1) mark.start) lines with
  | some first, some last =>
    let numberWidth := numberWidth (last.1 + 1)
    let place :=
      Nat.toDigits 10 (first.1 + 1) ++ ':' :: Nat.toDigits 10 (mark.start - first.2.offset + 1)
    let body :=
      if first.1 = last.1 then inlineRows numberWidth first.1 first.2 mark
      else marginRows numberWidth first last mark
    [ border numberWidth '╭' ++ "─[<unknown>:".toList ++ place ++ [']'],
      border numberWidth '│' ] ++ body ++
      [List.replicate (numberWidth + 2) '─' ++ ['╯']]
  | _, _ => []

end Report

/-- The part of a source that an error is about. -/
def CompileError.mark (e : CompileError) (source : String) : Mark :=
  let stop := min e.span.stop source.utf8ByteSize
  ⟨min e.span.start stop, stop, e.fault.label⟩

/-- The error as a report on the source that it was found in. -/
def CompileError.render (e : CompileError) (source : String) : String :=
  let header := "[" ++ e.code ++ "] Error: " ++ e.message ++ "\n"
  header ++ String.ofList
    ((Report.snippetRows source.toList (e.mark source)).flatMap (· ++ ['\n']))

end TextTemplate
