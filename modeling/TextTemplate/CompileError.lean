import TextTemplate.Filter.Basic
import TextTemplate.Span

/-!
What can be wrong with a template, where, and how it is said.
-/
namespace TextTemplate

/-- What the grammar asked for where something else was found. -/
inductive Expected where
  | propertyPath
  | filterArgument
  | barOrEnd
  | commaBarOrEnd
deriving DecidableEq, Repr

def Expected.text : Expected → String
  | propertyPath => "a property path"
  | filterArgument => "a filter argument"
  | barOrEnd => "`|` or end of interpolation"
  | commaBarOrEnd => "`,`, `|` or end of interpolation"

inductive Fault where
  | unterminatedInterpolation
  | emptyInterpolation
  | invalidPath (path : String)
  | unknownFilter (name : String)
  | missingFilterName
  | unterminatedQuote
  | unexpectedToken (found : String) (expected : Expected)
  | unquotedPattern (filter : Filter) (pattern : String)
  | argumentCount (filter : Filter) (least most got : Nat)
  | invalidArgument (filter : Filter) (reason : String)
  | invalidPattern (family : Family) (pattern reason : String)
  | invalidParameter (name : String)
deriving DecidableEq, Repr

structure CompileError where
  fault : Fault
  span : Span
deriving DecidableEq, Repr

namespace Fault

def argumentNoun (count : Nat) : String :=
  if count = 1 then "argument" else "arguments"

def arityText (least most : Nat) : String :=
  if least = most then toString least ++ " " ++ argumentNoun least
  else toString least ++ " to " ++ toString most ++ " " ++ argumentNoun most

def patternMessage (family : Family) (pattern reason : String) : String :=
  "invalid " ++ family.name ++ " format pattern \"" ++ pattern ++ "\": " ++ reason

def message : Fault → String
  | unterminatedInterpolation =>
    "unterminated interpolation: `\x7b\x7b` has no matching `\x7d\x7d`"
  | emptyInterpolation =>
    "empty interpolation: expected a property path between `\x7b\x7b` and `\x7d\x7d`"
  | invalidPath path => "invalid property path `" ++ path ++ "`"
  | unknownFilter name => "unknown filter `" ++ name ++ "`"
  | missingFilterName => "expected a filter name after `|`"
  | unterminatedQuote => "unterminated quoted argument"
  | unexpectedToken found expected => "unexpected `" ++ found ++ "`, expected " ++ expected.text
  | unquotedPattern filter pattern =>
    "format pattern for `" ++ filter.name ++ "` must be quoted: " ++ pattern
  | argumentCount filter least most got =>
    "filter `" ++ filter.name ++ "` takes " ++ arityText least most ++ ", got " ++ toString got
  | invalidArgument filter reason => "invalid argument to `" ++ filter.name ++ "`: " ++ reason
  | invalidPattern family pattern reason => patternMessage family pattern reason
  | invalidParameter name => "context parameter `" ++ name ++ "` is not a valid identifier"

/-- The stable code of a fault. Its first digit tells the phase: scanning, parsing, resolution of
filters, emission. -/
def code : Fault → String
  | unterminatedInterpolation => "E0001"
  | emptyInterpolation => "E1001"
  | invalidPath _ => "E1002"
  | unknownFilter _ => "E1003"
  | missingFilterName => "E1004"
  | unterminatedQuote => "E1005"
  | unexpectedToken .. => "E1006"
  | unquotedPattern .. => "E1007"
  | argumentCount .. => "E2001"
  | invalidArgument .. => "E2002"
  | invalidPattern .. => "E2003"
  | invalidParameter _ => "E3001"

/-- The short text beside the marked part of a source. -/
def label : Fault → String
  | unterminatedInterpolation => "opened here"
  | emptyInterpolation => "nothing to interpolate"
  | invalidPath _ => "not a dotted property path"
  | unknownFilter _ => "no filter with this name"
  | missingFilterName => "filter name expected here"
  | unterminatedQuote => "quote opened here"
  | unexpectedToken .. => "unexpected"
  | unquotedPattern .. => "wrap the pattern in quotes"
  | argumentCount .. => "in this filter"
  | invalidArgument .. => "invalid argument"
  | invalidPattern .. => "invalid pattern"
  | invalidParameter _ => "emitting this template"

end Fault

def CompileError.message (e : CompileError) : String := e.fault.message

def CompileError.code (e : CompileError) : String := e.fault.code

end TextTemplate
