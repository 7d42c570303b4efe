import TextTemplate.Emission.Basic
import TextTemplate.TemplateCache

/-!
A workspace: the two caches that templates are compiled and emitted with, and the name of the
context in emitted source.
-/
namespace TextTemplate

structure Workspace where
  parameter : String := Emission.defaultParameter
  formats : FormatCache := .empty
  templates : TemplateCache := .empty

namespace Workspace

def compile (w : Workspace) (source : String) : Except CompileError CompiledTemplate × Workspace :=
  let (outcome, formats) := CompiledTemplate.compile source w.formats
  (outcome, { w with formats })

def getOrCompile (w : Workspace) (source : String) :
    Except CompileError StoredTemplate × Workspace :=
  let (outcome, templates, formats) := w.templates.getOrCompile source w.formats
  (outcome, { w with templates, formats })

/-- Emits a source under the parameter of the workspace. -/
def emit (w : Workspace) (source : String) (collected : List String) :
    Except CompileError String × List String × Workspace :=
  let emission := Emission.ofSource source w.parameter collected w.formats
  (emission.source, emission.collected, { w with formats := emission.cache })

/-- The formatter of a pattern, with its position. -/
def formatter (w : Workspace) (family : Family) (pattern : String) :
    Except FormatError (Nat × StoredFormatter) × Workspace :=
  let (outcome, formats) := w.formats.getOrInsert family pattern
  (outcome, { w with formats })

def clearFormats (w : Workspace) : Workspace := { w with formats := w.formats.clear }

def clearTemplates (w : Workspace) : Workspace := { w with templates := w.templates.clear }

end TextTemplate.Workspace
