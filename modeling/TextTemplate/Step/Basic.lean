import TextTemplate.Resolution
import TextTemplate.Step.Operation

/-!
Steps: filter calls that have been resolved. A step is generic in how it refers to its formatter:
by the formatter itself when it is applied, by a position in the cache when it is emitted.
-/
namespace TextTemplate

inductive Step (φ : Type) where
  | operation (op : Operation)
  | format (formatter : φ)
deriving DecidableEq, Repr

namespace Step

/-- The formatter of a quoted pattern. -/
def resolveFormat (filter : Filter) (family : Family) (pattern : Argument) :
    Resolution (Step Formatter) :=
  match pattern with
  | .str text span =>
    (Resolution.formatter family text span).map fun (_, stored) => format stored.formatter
  | .number .. | .keyword .. =>
    .ofExcept <| Operation.invalid filter pattern
      ("expected a quoted pattern, found " ++ pattern.description ++ " `" ++ pattern.text ++ "`")

def resolve (call : FilterCall) : Resolution (Step Formatter) :=
  match call.filter.family?, call.args with
  | some family, [pattern] => resolveFormat call.filter family pattern
  | _, _ => .ofExcept ((Operation.ofCall call).map operation)

def resolveAll (calls : List FilterCall) : Resolution (List (Step Formatter)) :=
  .traverse resolve calls

/-- The filter that a step comes from. -/
def filter : Step Formatter → Filter
  | operation op => op.filter
  | format f =>
    match f.family with
    | .number => .number
    | .time => .time

def apply : Step Formatter → Value → Value
  | operation op => op.apply
  | format f => f.apply

/-- The value behind each step in turn. -/
def applyEach (v : Value) : List (Step Formatter) → List Value
  | [] => []
  | step :: steps => step.apply v :: applyEach (step.apply v) steps

def applyAll (steps : List (Step Formatter)) (v : Value) : Value :=
  steps.foldl (fun v step => step.apply v) v

end TextTemplate.Step
