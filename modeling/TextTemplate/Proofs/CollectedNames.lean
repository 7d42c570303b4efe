import Mathlib.Data.List.Nodup
import TextTemplate.Proofs.CacheGrowth
import TextTemplate.Proofs.EmissionAgreement

/-!
What an emission collects. It adds the first names of all paths to those that were collected before
if it succeeds, which are the names that the compiled template lists, and nothing if it fails,
wherever it does. Of several reasons to fail the parser's comes first, then the parameter, then the
first call in document order that cannot be resolved.
-/
namespace TextTemplate
open FormatCache Resolution

namespace Step

/-- Calls in front of one that fails do not keep its error from being the outcome. -/
theorem resolveAll_error {front later : List FilterCall} {call : FilterCall} {e : CompileError}
    (hfront : ∀ other ∈ front, other.Resolves) (hcall : call.FailsWith e) {cache : FormatCache}
    (h : Reachable cache) :
    ((resolveAll (front ++ call :: later)).effect cache).1 = .error e := by
  induction front generalizing cache with
  | nil =>
      have herror := effect_eq_error_iff.2 (hcall cache h)
      rw [List.nil_append, resolveAll, effect_traverse_cons, Resolution.bind]
      cases heffect : (resolve call).effect cache with
      | mk outcome middle =>
          rw [heffect] at herror
          cases herror
          rfl
  | cons first front ih =>
      rw [List.forall_mem_cons] at hfront
      obtain ⟨step, hstep⟩ := hfront.1 cache h
      have hmiddle := reachable_resolve first h
      rw [List.cons_append, resolveAll, effect_traverse_cons, Resolution.bind, effect_eq]
      cases hfirst : resolve first cache with
      | mk outcome middle =>
          rw [hfirst] at hstep hmiddle
          cases hstep
          exact ih hfront.2 hmiddle

/-- The error of resolving calls in order is that of the first one that fails. -/
theorem resolveAll_error_iff (calls : List FilterCall) {cache : FormatCache} (h : Reachable cache)
    (e : CompileError) :
    ((resolveAll calls).effect cache).1 = .error e ↔
      ∃ front call later, calls = front ++ call :: later ∧
        (∀ other ∈ front, other.Resolves) ∧ call.FailsWith e := by
  constructor
  · intro he
    obtain ⟨-, front, rest, hcalls, hfront, -, ⟨-, hok⟩ | ⟨call, later, e', rfl, hfails, herror⟩⟩ :=
      effect_resolveAll calls h
    · rw [hok] at he
      cases he
    · rw [herror] at he
      cases he
      exact ⟨front, call, later, hcalls, fun other hother => (hfront other hother).1, hfails⟩
  · intro hfirst
    obtain ⟨front, call, later, rfl, hfront, hfails⟩ := hfirst
    exact resolveAll_error hfront hfails h

end Step

theorem Template.mem_rootNames {t : Template} {name : String} :
    name ∈ t.rootNames ↔ ∃ i ∈ t.interpolations, i.path.root = name := by
  simp [rootNames]

namespace Emission

theorem mem_collect {collected names : List String} {name : String} :
    name ∈ collect collected names ↔ name ∈ collected ∨ name ∈ names := by
  rw [collect]
  induction names generalizing collected with
  | nil => simp
  | cons first names ih =>
      rw [List.foldl_cons, ih, List.mem_insert_iff, List.mem_cons, or_assoc, or_left_comm]

theorem nodup_collect {collected : List String} (h : collected.Nodup) (names : List String) :
    (collect collected names).Nodup := by
  rw [collect]
  induction names generalizing collected with
  | nil => exact h
  | cons first names ih => exact ih (List.Nodup.insert h)

theorem collected_ofTemplate_ok {t : Template} {parameter text : String} {collected : List String}
    {cache : FormatCache} (h : (ofTemplate t parameter collected cache).source = .ok text) :
    (ofTemplate t parameter collected cache).collected = collect collected t.rootNames := by
  rw [ofTemplate] at h ⊢
  split at h
  · rfl
  · cases h

theorem collected_ofTemplate_error {t : Template} {parameter : String} {collected : List String}
    {cache : FormatCache} {e : CompileError}
    (h : (ofTemplate t parameter collected cache).source = .error e) :
    (ofTemplate t parameter collected cache).collected = collected := by
  rw [ofTemplate] at h ⊢
  split at h
  · cases h
  · rfl

theorem source_ofTemplate_rejected {t : Template} {parameter : String}
    (h : isParameter parameter = false) (collected : List String) (cache : FormatCache) :
    (ofTemplate t parameter collected cache).source =
      .error ⟨.invalidParameter parameter, .point 0⟩ := by
  simp [source_ofTemplate, lines, h, fail, Resolution.ofExcept, Except.map]

/-- Why emitting a source fails. Each reason counts only if those before it do not hold. -/
inductive FailsWith (source parameter : String) : CompileError → Prop
  | parse {e : CompileError} (h : Template.parse source = .error e) : FailsWith source parameter e
  | parameter {t : Template} (parses : Template.parse source = .ok t)
      (rejected : isParameter parameter = false) :
      FailsWith source parameter ⟨.invalidParameter parameter, .point 0⟩
  | call {t : Template} {front later : List FilterCall} {call : FilterCall} {e : CompileError}
      (parses : Template.parse source = .ok t) (accepted : isParameter parameter = true)
      (calls : t.calls = front ++ call :: later) (resolve : ∀ other ∈ front, other.Resolves)
      (fails : call.FailsWith e) : FailsWith source parameter e

theorem source_ofSource_eq_error_iff (source parameter : String) (collected : List String)
    {cache : FormatCache} (h : Reachable cache) (e : CompileError) :
    (ofSource source parameter collected cache).source = .error e ↔
      FailsWith source parameter e := by
  rw [ofSource]
  cases hparse : Template.parse source with
  | error e' =>
      constructor
      · intro he
        cases he
        exact .parse hparse
      · intro hfails
        cases hfails with
        | parse h => exact congrArg Except.error (Except.error.inj (hparse.symm.trans h))
        | parameter parses _ | call parses _ _ _ _ => cases hparse.symm.trans parses
  | ok t =>
      cases hparameter : isParameter parameter with
      | false =>
          rw [source_ofTemplate_rejected hparameter]
          constructor
          · intro he
            cases he
            exact .parameter hparse hparameter
          · intro hfails
            cases hfails with
            | parse h => cases hparse.symm.trans h
            | parameter _ _ => rfl
            | call _ accepted _ _ _ => cases hparameter.symm.trans accepted
      | true =>
          rw [source_eq_error_iff t hparameter collected h.wellFormed, ← effect_eq_error_iff,
            Plan.effect_build, Step.resolveAll_error_iff t.calls h]
          constructor
          · intro hfirst
            obtain ⟨front, call, later, hcalls, hfront, hfails⟩ := hfirst
            exact .call hparse hparameter hcalls hfront hfails
          · intro hfails
            cases hfails with
            | parse h => cases hparse.symm.trans h
            | parameter _ rejected => cases hparameter.symm.trans rejected
            | call parses _ calls resolve fails =>
                cases hparse.symm.trans parses
                exact ⟨_, _, _, calls, resolve, fails⟩

/-- A template that can be emitted has a plan, with any cache. -/
theorem exists_plan_of_ofTemplate {t : Template} {parameter text : String}
    {collected : List String} {cache other : FormatCache} (h : cache.WellFormed)
    (hother : other.WellFormed) (he : (ofTemplate t parameter collected cache).source = .ok text) :
    ∃ plan, (Plan.build t other).1 = .ok plan := by
  cases hparameter : isParameter parameter with
  | false =>
      rw [source_ofTemplate_rejected hparameter] at he
      cases he
  | true =>
      cases hbuild : (Plan.build t other).1 with
      | ok plan => exact ⟨plan, rfl⟩
      | error e =>
          rw [Plan.build_stable t other cache hother h,
            ← source_eq_error_iff t hparameter collected h, he] at hbuild
          cases hbuild

/-- A source that can be emitted compiles, with any cache, to the template whose names are
collected. -/
theorem exists_compile_of_ofSource {source parameter text : String} {collected : List String}
    {cache other : FormatCache} (h : cache.WellFormed) (hother : other.WellFormed)
    (he : (ofSource source parameter collected cache).source = .ok text) :
    ∃ t, (CompiledTemplate.compile source other).1 = .ok t ∧
      Template.parse source = .ok t.template ∧
      (ofSource source parameter collected cache).collected =
        collect collected t.referencedProperties := by
  rw [ofSource] at he ⊢
  cases hparse : Template.parse source with
  | error e =>
      rw [hparse] at he
      cases he
  | ok t =>
      rw [hparse] at he
      obtain ⟨plan, hplan⟩ := exists_plan_of_ofTemplate h hother he
      obtain ⟨after, hbuild⟩ := outcome_eq_ok_iff.1 hplan
      have hcompile := (CompiledTemplate.compile_eq_ok_iff hparse).2 ⟨plan, hbuild, rfl⟩
      exact ⟨⟨source, t, plan⟩, outcome_eq_ok_iff.2 ⟨after, hcompile⟩, rfl,
        collected_ofTemplate_ok he⟩

/-- An emission that succeeds adds to the collected names those that the compiled template lists,
which are the first names of its paths. One that fails adds nothing; its error is that of the
parser, or else that of the parameter, or else that of the first call in document order that cannot
be resolved. -/
theorem collected_ofSource (source parameter : String) (collected : List String)
    {cache : FormatCache} (h : Reachable cache) :
    let emission := ofSource source parameter collected cache
    (∀ text, emission.source = .ok text →
      (∀ other, Reachable other → ∃ t, (CompiledTemplate.compile source other).1 = .ok t ∧
        Template.parse source = .ok t.template ∧
        (∀ name, name ∈ emission.collected ↔
          name ∈ collected ∨ name ∈ t.referencedProperties) ∧
        ∀ name, name ∈ t.referencedProperties ↔
          ∃ i ∈ t.template.interpolations, i.path.root = name) ∧
      (collected.Nodup → emission.collected.Nodup)) ∧
    (∀ e, emission.source = .error e → emission.collected = collected) ∧
    ∀ e, emission.source = .error e ↔ FailsWith source parameter e := by
  intro emission
  refine ⟨fun text htext => ⟨fun other hother => ?_, fun hnodup => ?_⟩, fun e he => ?_,
    source_ofSource_eq_error_iff source parameter collected h⟩
  · obtain ⟨t, hcompile, hparse, hcollected⟩ :=
      exists_compile_of_ofSource h.wellFormed hother.wellFormed htext
    refine ⟨t, hcompile, hparse, fun name => ?_, fun name => Template.mem_rootNames⟩
    rw [show emission.collected = _ from hcollected, mem_collect]
  · obtain ⟨t, -, -, hcollected⟩ :=
      exists_compile_of_ofSource h.wellFormed h.wellFormed htext
    rw [show emission.collected = _ from hcollected]
    exact nodup_collect hnodup _
  · simp only [emission, ofSource] at he ⊢
    split
    · rename_i t hparse
      rw [hparse] at he
      exact collected_ofTemplate_error he
    · rfl

/-- Names that are collected already, a path with a second name, and a call that fails behind one
whose formatter is stored. -/
theorem collected_ofSource_names :
    let cache := (FormatCache.empty.getOrInsert .time "%Y").2
    let source := "\x7b\x7buser.name\x7d\x7d \x7b\x7bcount|number:'d'\x7d\x7d\x7b\x7buser\x7d\x7d"
    let failing := "\x7b\x7ba|number:'d'\x7d\x7d\x7b\x7bb|left:'x'\x7d\x7d"
    let emission := ofSource source "ctx" ["name", "count"] cache
    let failed := ofSource failing "ctx" ["name"] cache
    (∃ t, (CompiledTemplate.compile source .empty).1 = .ok t ∧
      t.referencedProperties = ["user", "count"] ∧
      ∀ name, name ∈ emission.collected ↔
        name ∈ ["name", "count"] ∨ name ∈ t.referencedProperties) ∧
    ∃ e, failed.source = .error e ∧ failed.collected = ["name"] ∧
      failed.cache.entries = [(.time, "%Y"), (.number, "d")] ∧ FailsWith failing "ctx" e := by
  intro cache source failing emission failed
  have hcache : Reachable cache := .getOrInsert .empty .time "%Y"
  obtain ⟨hemitted, -, -⟩ := collected_ofSource source "ctx" ["name", "count"] hcache
  obtain ⟨-, hunchanged, hfails⟩ := collected_ofSource failing "ctx" ["name"] hcache
  refine ⟨?_, ?_⟩
  · have hsome : emission.source.toOption.isSome := by decide +kernel
    obtain ⟨text, htext⟩ := Option.isSome_iff_exists.1 hsome
    obtain ⟨t, ht, -, hnames, -⟩ := (hemitted text (eq_ok_of_toOption htext)).1 .empty .empty
    refine ⟨t, ht, ?_, hnames⟩
    have hroots : (CompiledTemplate.compile source .empty).1.toOption.map
        CompiledTemplate.referencedProperties = some ["user", "count"] := by decide +kernel
    rw [ht] at hroots
    exact Option.some.inj hroots
  · have herror : failed.source = .error ⟨.invalidArgument .left
        "expected a whole number, found string literal `\"x\"`", ⟨25, 28⟩⟩ := by decide +kernel
    exact ⟨_, herror, hunchanged _ herror, by decide +kernel, (hfails _).1 herror⟩

end Emission
end TextTemplate
