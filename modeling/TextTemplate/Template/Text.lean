import TextTemplate.Double.Text
import TextTemplate.Template.Basic

/-!
The canonical text of a template: its source without the blanks between tokens.
-/
namespace TextTemplate

/-- The quote that may surround a text: the single one if the text has a double one. -/
def Argument.quote (value : String) : Char :=
  if value.toList.contains '"' then '\'' else '"'

def Argument.chars : Argument → List Char
  | .str value _ => Argument.quote value :: value.toList ++ [Argument.quote value]
  | .number value _ => value.plainChars
  | .keyword value _ => value.toList

/-- The argument as it stands in a source. -/
def Argument.text (a : Argument) : String :=
  String.ofList a.chars

def Path.text (p : Path) : String :=
  ".".intercalate p.names

/-- Arguments with a separator before each, which is a colon before the first. -/
def FilterCall.argumentChars (separator : Char) : List Argument → List Char
  | [] => []
  | a :: as => separator :: a.chars ++ argumentChars ',' as

def FilterCall.chars (f : FilterCall) : List Char :=
  f.filter.name.toList ++ argumentChars ':' f.args

def FilterCall.text (f : FilterCall) : String :=
  String.ofList f.chars

def Interpolation.chars (i : Interpolation) : List Char :=
  ['\x7b', '\x7b'] ++ i.path.text.toList ++ i.filters.flatMap (fun f => '|' :: f.chars) ++
    ['\x7d', '\x7d']

def Interpolation.text (i : Interpolation) : String :=
  String.ofList i.chars

def Segment.chars : Segment → List Char
  | .literal text _ => text.toList
  | .interpolation i => i.chars

def Template.chars (t : Template) : List Char :=
  t.segments.flatMap Segment.chars

def Template.text (t : Template) : String :=
  String.ofList t.chars

end TextTemplate
