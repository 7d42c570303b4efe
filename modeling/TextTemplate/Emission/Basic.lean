import TextTemplate.Emission.Line
import TextTemplate.Emission.Parameter
import TextTemplate.Syntax.Parser

/-!
Emission of a template as program source: a block that builds the rendered text of a context.
Formatters are addressed by their position in the cache.
-/
namespace TextTemplate

namespace Emission

/-- The step with its formatter addressed by position. -/
def address (call : FilterCall) : Step Formatter → Resolution (Step Nat)
  | .operation op => .succeed (.operation op)
  | .format f =>
    (Resolution.formatter f.family f.pattern call.span).map fun (index, _) => .format index

/-- The addressed steps of a pipeline. All of it is resolved before the first step is
addressed. -/
def addressAll (calls : List FilterCall) : Resolution (List (Step Nat)) :=
  (Step.resolveAll calls).bind fun steps =>
    .traverse (fun (call, step) => address call step) (calls.zip steps)

/-- The inner block that looks up a path, applies steps and appends the text. -/
def interpolationLines (parameter : String) (names : List String) (steps : List (Step Nat)) :
    List Line :=
  ⟨1, .openBlock⟩ :: ⟨2, .bind parameter names⟩ :: steps.map (fun step => ⟨2, .apply step⟩) ++
    [⟨2, .render⟩, ⟨1, .closeBlock⟩]

def segmentLines (parameter : String) : Segment → Resolution (List Line)
  | .literal text _ => .succeed [⟨1, .append text⟩]
  | .interpolation i => (addressAll i.filters).map (interpolationLines parameter i.path.names)

/-- The whole block around the lines of the segments. -/
def blockLines (t : Template) (inner : List (List Line)) : List Line :=
  ⟨0, .openBlock⟩ :: ⟨1, .reserve t.literalSize⟩ :: inner.flatten ++
    [⟨1, .result⟩, ⟨0, .closeBlock⟩]

def lines (t : Template) (parameter : String) : Resolution (List Line) :=
  if isParameter parameter then
    (Resolution.traverse (segmentLines parameter) t.segments).map (blockLines t)
  else .fail ⟨.invalidParameter parameter, .point 0⟩

/-- Names with those of `names` that are not among them. -/
def collect (collected names : List String) : List String :=
  names.foldl (fun collected name => collected.insert name) collected

end Emission

/-- The outcome of an emission: its text or why there is none, the names read by all templates
emitted so far, and the cache. -/
structure Emission where
  source : Except CompileError String
  collected : List String
  cache : FormatCache

namespace Emission

/-- Emits a template. Its names are collected only if that succeeds. -/
def ofTemplate (t : Template) (parameter : String) (collected : List String)
    (cache : FormatCache) : Emission :=
  match lines t parameter cache with
  | (.ok lines, cache) => ⟨.ok (sourceText lines), collect collected t.rootNames, cache⟩
  | (.error e, cache) => ⟨.error e, collected, cache⟩

def ofSource (source : String) (parameter : String) (collected : List String)
    (cache : FormatCache) : Emission :=
  match Template.parse source with
  | .ok t => ofTemplate t parameter collected cache
  | .error e => ⟨.error e, collected, cache⟩

end TextTemplate.Emission
