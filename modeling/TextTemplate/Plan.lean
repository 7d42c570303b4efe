import TextTemplate.Step.Basic

/-!
Plans: templates with every filter resolved. A plan is built once and evaluated against any
number of contexts, which cannot fail.
-/
namespace TextTemplate

inductive Part where
  | literal (text : String)
  | interpolation (path : List String) (steps : List (Step Formatter))
deriving DecidableEq, Repr

structure Plan where
  parts : List Part
deriving DecidableEq, Repr

namespace Part

def ofSegment : Segment → Resolution Part
  | .literal text _ => .succeed (literal text)
  | .interpolation i => (Step.resolveAll i.filters).map (interpolation i.path.names)

def isInterpolation : Part → Bool
  | literal _ => false
  | interpolation .. => true

def chars (context : Value) : Part → List Char
  | literal text => text.toList
  | interpolation path steps => (Step.applyAll steps (context.lookup path)).chars

end Part

namespace Plan

def build (t : Template) : Resolution Plan :=
  (Resolution.traverse Part.ofSegment t.segments).map mk

def chars (p : Plan) (context : Value) : List Char :=
  p.parts.flatMap (·.chars context)

def evaluate (p : Plan) (context : Value) : String :=
  String.ofList (p.chars context)

def interpolationCount (p : Plan) : Nat :=
  p.parts.countP (·.isInterpolation)

end TextTemplate.Plan
