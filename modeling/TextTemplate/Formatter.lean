import TextTemplate.CompileError
import TextTemplate.DatePattern.Format
import TextTemplate.DatePattern.Parser
import TextTemplate.NumberPattern.Format
import TextTemplate.NumberPattern.Parser
import TextTemplate.Value.Text

/-!
Formatters: the patterns of both families, checked and ready to be applied to values.
-/
namespace TextTemplate

/-- A pattern as it was written and as it was read. -/
inductive Formatter where
  | number (pattern : String) (parsed : NumberPattern)
  | time (pattern : String) (parsed : DatePattern)
deriving DecidableEq, Repr

structure FormatError where
  family : Family
  pattern : String
  reason : String
deriving DecidableEq, Repr

namespace FormatError

def fault (e : FormatError) : Fault :=
  .invalidPattern e.family e.pattern e.reason

def message (e : FormatError) : String :=
  Fault.patternMessage e.family e.pattern e.reason

end FormatError

namespace Formatter

def parse (family : Family) (pattern : String) : Except FormatError Formatter :=
  match family with
  | .number =>
    match NumberPattern.parse pattern with
    | .ok parsed => .ok (number pattern parsed)
    | .error e => .error ⟨family, pattern, e.message⟩
  | .time =>
    match DatePattern.parse? pattern with
    | some parsed => .ok (time pattern parsed)
    | none => .error ⟨family, pattern, DatePattern.errorMessage⟩

def family : Formatter → Family
  | number .. => .number
  | time .. => .time

def pattern : Formatter → String
  | number pattern _ | time pattern _ => pattern

/-- The value as the formatter writes it. What the formatter cannot handle passes unchanged, and
a date without the parts that the pattern asks for is written as it is rendered. -/
def apply (f : Formatter) (v : Value) : Value :=
  match f with
  | number _ parsed =>
    match v with
    | .number x => .str (parsed.format x)
    | _ => v
  | time _ parsed =>
    match v.date? with
    | some d => .str ((parsed.format? d).getD (String.ofList d.chars))
    | none => v

end TextTemplate.Formatter
