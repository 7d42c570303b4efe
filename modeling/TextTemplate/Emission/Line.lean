import TextTemplate.Step.Basic
import TextTemplate.Text.Quoted

/-!
The lines of emitted source. Each is a statement at a depth, and its text is determined by these
two. The statements build the rendered text in one local name and pass the value of an
interpolation along in another.
-/
namespace TextTemplate.Emission

inductive Statement where
  | openBlock
  | reserve (bytes : Nat)
  | append (text : String)
  | bind (parameter : String) (names : List String)
  | apply (step : Step Nat)
  | render
  | result
  | closeBlock
deriving DecidableEq, Repr

structure Line where
  depth : Nat
  statement : Statement
deriving DecidableEq, Repr

def sideName : Side → String
  | .right => "Right"
  | .left => "Left"
  | .middle => "Middle"

def valueType : String := "::stencil_eval::Value"

def library : String := "::stencil_eval::runtime"

/-- A function of the library applied to these arguments. -/
def callText (function : String) (args : List String) : String :=
  library ++ "::" ++ function ++ "(" ++ ", ".intercalate args ++ ")"

def stopText : Option Int → String
  | none => "None"
  | some stop => "Some(" ++ toString stop ++ ")"

def sideText (type : String) (side : Side) : String :=
  library ++ "::" ++ type ++ "::" ++ sideName side

/-- An operation on the value at hand. -/
def operationText : Operation → String
  | .lower => callText "lower" ["__v"]
  | .upper => callText "upper" ["__v"]
  | .lowerLocale => callText "lower_locale" ["__v"]
  | .upperLocale => callText "upper_locale" ["__v"]
  | .trim => callText "trim" ["__v"]
  | .length => callText "length" ["__v"]
  | .left n => callText "left" ["__v", toString n]
  | .right n => callText "right" ["__v", toString n]
  | .mid start n => callText "mid" ["__v", toString start, toString n]
  | .slice start stop => callText "slice" ["__v", toString start, stopText stop]
  | .truncate width side =>
    callText "truncate" ["__v", toString width, sideText "TruncateSide" side]
  | .pad width side => callText "pad" ["__v", toString width, sideText "PadSide" side]

def stepText : Step Nat → String
  | .operation op => operationText op
  | .format index => callText "format" ["__v", "&__formats[" ++ toString index ++ "]"]

def namesText (names : List String) : String :=
  "&[" ++ ", ".intercalate (names.map Text.quoted) ++ "]"

def Statement.text : Statement → String
  | openBlock => "\x7b"
  | reserve bytes =>
    "let mut __out = ::std::string::String::with_capacity(" ++ toString bytes ++ ");"
  | append text => "__out.push_str(" ++ Text.quoted text ++ ");"
  | bind parameter names =>
    "let __v: &" ++ valueType ++ " = " ++ callText "lookup" [parameter, namesText names] ++ ";"
  | apply step => "let __v = &" ++ stepText step ++ ";"
  | render => callText "render" ["__v", "&mut __out"] ++ ";"
  | result => "__out"
  | closeBlock => "\x7d"

def Line.text (line : Line) : String :=
  String.ofList (List.replicate (4 * line.depth) ' ') ++ line.statement.text

/-- Lines with a line feed between them. -/
def sourceText (lines : List Line) : String :=
  "\n".intercalate (lines.map Line.text)

end TextTemplate.Emission
