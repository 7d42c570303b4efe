import TextTemplate.Proofs.EmissionAddresses
import TextTemplate.Workspace

/-!
Histories of a workspace. Whatever was inserted, compiled, emitted and cleared before, a source
gives the template or the error that it gives with empty caches, and a template that was once
obtained is evaluated in the same way after everything that follows.
-/
namespace TextTemplate
open FormatCache Resolution

/-- The two ways to ask for the template of a source: of the compiler, or of the cache of
templates over it. -/
inductive Request where
  | compile
  | cached
deriving DecidableEq, Repr

/-- What can be done with a workspace. A template that is emitted need not come from a source, and
its source may read the context under another name. -/
inductive Command where
  | insert (family : Family) (pattern : String)
  | request (request : Request) (source : String)
  | emit (source : String) (collected : List String)
  | emitTemplate (t : Template) (parameter : String) (collected : List String)
  | clearFormats
  | clearTemplates
deriving DecidableEq, Repr

namespace CompiledTemplate

/-- What compiling a source gives when nothing is cached. -/
def fresh (source : String) : Except CompileError CompiledTemplate :=
  (compile source .empty).1

theorem compile_outcome (source : String) {formats : FormatCache} (h : formats.WellFormed) :
    (compile source formats).1 = fresh source :=
  compile_stable source _ _ h wellFormed_empty

end CompiledTemplate

theorem TemplateCache.get?_push (cache : TemplateCache) (template : CompiledTemplate)
    (source : String) :
    (cache.push template).get? source =
      if source = template.source then some ⟨cache.built, template⟩ else cache.get? source := by
  by_cases h : source = template.source
  · simp [get?, push, h]
  · simp [get?, push, List.lookup_cons, h, beq_false_of_ne]

namespace Workspace

def request (w : Workspace) : Request → String → Except CompileError CompiledTemplate × Workspace
  | .compile, source => w.compile source
  | .cached, source =>
    let (outcome, w) := w.getOrCompile source
    (outcome.map (·.template), w)

/-- What is stored is what building it afresh gives. -/
structure Valid (w : Workspace) : Prop where
  formats : w.formats.WellFormed
  templates : ∀ {source stored}, w.templates.get? source = some stored →
    CompiledTemplate.fresh source = .ok stored.template

theorem valid_with_formats {w : Workspace} (h : w.Valid) {formats : FormatCache}
    (hf : formats.WellFormed) : { w with formats }.Valid :=
  ⟨hf, h.templates⟩

/-- A template that is stored beside its source has to be the one that the source gives. -/
theorem valid_push {w : Workspace} (h : w.Valid) {formats : FormatCache} (hf : formats.WellFormed)
    {template : CompiledTemplate}
    (hfresh : CompiledTemplate.fresh template.source = .ok template) :
    { w with templates := w.templates.push template, formats }.Valid where
  formats := hf
  templates {source stored} hget := by
    rw [TemplateCache.get?_push] at hget
    split at hget
    · rename_i hsource
      cases hget
      rw [hsource, hfresh]
    · exact h.templates hget

theorem compile_outcome {w : Workspace} (h : w.Valid) (source : String) :
    (w.compile source).1 = CompiledTemplate.fresh source ∧ (w.compile source).2.Valid := by
  have hgrown := (CompiledTemplate.compile_lawful source).grown h.formats
  exact ⟨CompiledTemplate.compile_outcome source h.formats,
    valid_with_formats h hgrown.wellFormed⟩

/-- What a request to the cache can do: find its template, store the fresh one, or fail with the
fresh error and store nothing. -/
theorem getOrCompile_cases {w : Workspace} (h : w.Valid) (source : String) :
    (∃ stored, w.templates.get? source = some stored ∧ w.getOrCompile source = (.ok stored, w)) ∨
    ∃ formats, formats.WellFormed ∧ w.templates.get? source = none ∧
      ((∃ template, CompiledTemplate.fresh source = .ok template ∧ template.source = source ∧
        w.getOrCompile source = (.ok ⟨w.templates.built, template⟩,
          { w with templates := w.templates.push template, formats })) ∨
      ∃ e, CompiledTemplate.fresh source = .error e ∧
        w.getOrCompile source = (.error e, { w with formats })) := by
  cases hget : w.templates.get? source with
  | some stored =>
      refine .inl ⟨stored, rfl, ?_⟩
      simp only [getOrCompile, TemplateCache.getOrCompile, hget]
  | none =>
      have houtcome := CompiledTemplate.compile_outcome source h.formats
      have hgrown := (CompiledTemplate.compile_lawful source).grown h.formats
      cases hcompile : CompiledTemplate.compile source w.formats with
      | mk outcome formats =>
          rw [hcompile] at houtcome hgrown
          refine .inr ⟨formats, hgrown.wellFormed, rfl, ?_⟩
          cases outcome with
          | ok template =>
              refine .inl ⟨template, houtcome.symm, CompiledTemplate.source_of_compile hcompile, ?_⟩
              simp only [getOrCompile, TemplateCache.getOrCompile, hget, hcompile]
          | error e =>
              refine .inr ⟨e, houtcome.symm, ?_⟩
              simp only [getOrCompile, TemplateCache.getOrCompile, hget, hcompile]

theorem getOrCompile_outcome {w : Workspace} (h : w.Valid) (source : String) :
    (w.getOrCompile source).1.map (·.template) = CompiledTemplate.fresh source ∧
      (w.getOrCompile source).2.Valid := by
  obtain ⟨stored, hget, heq⟩ | ⟨formats, hf, -, ⟨template, hfresh, hsource, heq⟩ |
    ⟨e, hfresh, heq⟩⟩ := getOrCompile_cases h source <;> rw [heq]
  · exact ⟨(h.templates hget).symm, h⟩
  · exact ⟨hfresh.symm, valid_push h hf (hsource ▸ hfresh)⟩
  · exact ⟨hfresh.symm, valid_with_formats h hf⟩

theorem request_outcome {w : Workspace} (h : w.Valid) (request : Request) (source : String) :
    (w.request request source).1 = CompiledTemplate.fresh source ∧
      (w.request request source).2.Valid := by
  cases request with
  | compile => exact compile_outcome h source
  | cached => exact getOrCompile_outcome h source

end Workspace

/-- A workspace with the templates that were obtained from it, in order. -/
structure Session where
  workspace : Workspace
  held : List CompiledTemplate := []

namespace Session

/-- Nothing is stored at the start. -/
def start (parameter : String) : Session := { workspace := { parameter } }

def step (s : Session) : Command → Session
  | .insert family pattern => { s with workspace := (s.workspace.formatter family pattern).2 }
  | .request request source =>
    let (outcome, workspace) := s.workspace.request request source
    { workspace, held := s.held ++ outcome.toOption.toList }
  | .emit source collected => { s with workspace := (s.workspace.emit source collected).2.2 }
  | .emitTemplate t parameter collected =>
    let formats := (Emission.ofTemplate t parameter collected s.workspace.formats).cache
    { s with workspace := { s.workspace with formats } }
  | .clearFormats => { s with workspace := s.workspace.clearFormats }
  | .clearTemplates => { s with workspace := s.workspace.clearTemplates }

def run (s : Session) (commands : List Command) : Session :=
  commands.foldl step s

/-- The text of a held template in a context. -/
def evaluate? (s : Session) (position : Nat) (context : Value) : Option String :=
  (s.held[position]?).map (·.evaluate context)

theorem valid_start (parameter : String) : (start parameter).workspace.Valid :=
  ⟨wellFormed_empty, fun h => by cases h⟩

theorem valid_step {s : Session} (h : s.workspace.Valid) (command : Command) :
    (s.step command).workspace.Valid := by
  cases command with
  | insert family pattern =>
      exact Workspace.valid_with_formats h
        (h.formats.grown_getOrInsert family pattern).wellFormed
  | request request source => exact (Workspace.request_outcome h request source).2
  | emit source collected =>
      exact Workspace.valid_with_formats h (Emission.grown_ofSource h.formats).wellFormed
  | emitTemplate t parameter collected =>
      exact Workspace.valid_with_formats h (Emission.grown_ofTemplate h.formats).wellFormed
  | clearFormats => exact Workspace.valid_with_formats h (wellFormed_clear _)
  | clearTemplates => exact ⟨h.formats, fun h => by cases h⟩

theorem held_prefix_step (s : Session) (command : Command) : s.held <+: (s.step command).held := by
  cases command with
  | request request source => exact List.prefix_append _ _
  | insert _ _ | emit _ _ | emitTemplate _ _ _ | clearFormats | clearTemplates =>
      exact List.prefix_refl _

theorem valid_run {s : Session} (h : s.workspace.Valid) (commands : List Command) :
    (s.run commands).workspace.Valid := by
  induction commands generalizing s with
  | nil => exact h
  | cons command commands ih => exact ih (valid_step h command)

theorem held_prefix_run (s : Session) (commands : List Command) :
    s.held <+: (s.run commands).held := by
  induction commands generalizing s with
  | nil => exact List.prefix_refl _
  | cons command commands ih => exact (held_prefix_step s command).trans (ih _)

theorem evaluate?_run {s : Session} {position : Nat} {template : CompiledTemplate}
    (h : s.held[position]? = some template) (further : List Command) (context : Value) :
    (s.run further).evaluate? position context = some (template.evaluate context) := by
  have hheld := getElem?_of_prefix (held_prefix_run s further) h
  simp [evaluate?, hheld]

/-- After any history a source compiles, or fails with the error of the same kind at the same
place, as it does with empty caches; and the template obtained gives the text of the fresh one in
every context, whatever happens to the caches later. -/
theorem request_run_eq_fresh (parameter : String) (history : List Command) (request : Request)
    (source : String) :
    let session := (start parameter).run history
    (session.workspace.request request source).1 = CompiledTemplate.fresh source ∧
      ∀ template, CompiledTemplate.fresh source = .ok template →
        ∀ (further : List Command) (context : Value),
          ((session.step (.request request source)).run further).evaluate?
            session.held.length context = some (template.evaluate context) := by
  intro session
  have hvalid := valid_run (valid_start parameter) history
  have houtcome := (Workspace.request_outcome hvalid request source).1
  refine ⟨houtcome, fun template hfresh further context => ?_⟩
  apply evaluate?_run
  simp only [step, houtcome, hfresh, session]
  simp [Except.toOption]

/-- The formatter is found in the cache, both caches are cleared behind the request, and the same
pattern is built again. -/
theorem request_run_amount :
    let source := "a\x7b\x7bp|number:\",.2f\"\x7d\x7d"
    let history : List Command :=
      [.insert .number "oops", .insert .number ",.2f", .emit source [],
        .request .compile "\x7b\x7b"]
    let further : List Command :=
      [.clearFormats, .clearTemplates, .insert .time "%Y", .request .cached source]
    let session := (start "obj").run history
    ((session.step (.request .cached source)).run further).evaluate? session.held.length
      (.object [("p", .number (.ofNat 1234))]) = some "a1,234.00" := by
  intro source history further session
  have htext : (CompiledTemplate.fresh source).toOption.map
      (·.evaluate (.object [("p", .number (.ofNat 1234))])) = some "a1,234.00" := by decide +kernel
  obtain ⟨template, htemplate, heval⟩ := Option.map_eq_some_iff.1 htext
  have hok := eq_ok_of_toOption htemplate
  rw [← heval]
  exact (request_run_eq_fresh "obj" history .cached source).2 template hok further _

end Session
end TextTemplate
