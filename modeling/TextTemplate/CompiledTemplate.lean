import TextTemplate.Plan
import TextTemplate.Syntax.Parser
import TextTemplate.Text.Quoted

/-!
Compiled templates: a source with its template and the plan of it.
-/
namespace TextTemplate

structure CompiledTemplate where
  source : String
  template : Template
  plan : Plan
deriving DecidableEq, Repr

namespace CompiledTemplate

def compile (source : String) : Resolution CompiledTemplate :=
  match Template.parse source with
  | .error e => .fail e
  | .ok template => (Plan.build template).map fun plan => ⟨source, template, plan⟩

def evaluate (t : CompiledTemplate) (context : Value) : String :=
  t.plan.evaluate context

/-- A text with the rendered template behind it. -/
def evaluateInto (t : CompiledTemplate) (context : Value) (out : String) : String :=
  out ++ t.evaluate context

/-- The names that the template reads from its context, each once, in order of first use. -/
def referencedProperties (t : CompiledTemplate) : List String := t.template.rootNames

/-- Whether the output is the same for every context. -/
def isStatic (t : CompiledTemplate) : Bool := t.template.isStatic

/-- A summary for people who debug. -/
def summary (t : CompiledTemplate) : String :=
  "CompiledTemplate \x7b source: " ++ Text.quoted t.source ++ ", interpolations: " ++
    toString t.plan.interpolationCount ++ ", .. \x7d"

end TextTemplate.CompiledTemplate
