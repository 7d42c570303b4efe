import TextTemplate.Double.Basic
import TextTemplate.Filter.Basic
import TextTemplate.Span
import TextTemplate.Text.Utf8

/-!
Parsed templates: literal text and interpolations in source order. An interpolation reads a
property and passes it through filters.
-/
namespace TextTemplate

/-- A dotted sequence of property names, of which there is at least one. -/
structure Path where
  root : String
  rest : List String
  span : Span
deriving DecidableEq, Repr, Inhabited

inductive Argument where
  | str (value : String) (span : Span)
  | number (value : Double) (span : Span)
  | keyword (value : String) (span : Span)
deriving DecidableEq, Repr

/-- A filter with its arguments; the span is that of its name. -/
structure FilterCall where
  filter : Filter
  args : List Argument
  span : Span
deriving DecidableEq, Repr

structure Interpolation where
  path : Path
  filters : List FilterCall
  span : Span
deriving DecidableEq, Repr

inductive Segment where
  | literal (text : String) (span : Span)
  | interpolation (content : Interpolation)
deriving DecidableEq, Repr

structure Template where
  segments : List Segment
deriving DecidableEq, Repr

namespace Path

def names (p : Path) : List String := p.root :: p.rest

/-- The path of these names, unless there is none. -/
def ofNames? (names : List String) (span : Span) : Option Path :=
  match names with
  | [] => none
  | root :: rest => some ⟨root, rest, span⟩

end Path

namespace Argument

def span : Argument → Span
  | str _ s | number _ s | keyword _ s => s

def number? : Argument → Option Double
  | number x _ => some x
  | _ => none

/-- The text of a quoted argument or of a keyword. -/
def text? : Argument → Option String
  | str s _ | keyword s _ => some s
  | number .. => none

/-- What messages call this kind of argument. -/
def description : Argument → String
  | str .. => "string literal"
  | number .. => "number"
  | keyword .. => "keyword"

end Argument

def Segment.interpolation? : Segment → Option Interpolation
  | literal .. => none
  | interpolation i => some i

/-- Bytes of literal text. -/
def Segment.literalSize : Segment → Nat
  | literal text _ => text.utf8ByteSize
  | interpolation _ => 0

namespace Template

def interpolations (t : Template) : List Interpolation :=
  t.segments.filterMap Segment.interpolation?

/-- Whether nothing is interpolated. -/
def isStatic (t : Template) : Bool := t.interpolations.isEmpty

/-- The first names of all paths, each once, in order of first use. -/
def rootNames (t : Template) : List String :=
  (t.interpolations.map (·.path.root)).eraseDups

def literalSize (t : Template) : Nat :=
  (t.segments.map Segment.literalSize).foldl (· + ·) 0

end TextTemplate.Template
