import TextTemplate.Proofs.CacheHistory
import TextTemplate.Proofs.ResolutionEffects

/-!
Emission and evaluation accept the same templates. Emission resolves the calls of one interpolation
and then asks for their formatters once more, which finds all of them and changes nothing; so it
has the effect of building the plan, up to the first failure and also there.
-/
namespace TextTemplate.Emission
open FormatCache Resolution

/-- A step that was resolved is addressed in every later state of the cache, without changing it. -/
theorem address_again {call : FilterCall} {step : Step Formatter} {cache after later : FormatCache}
    (h : cache.WellFormed) (he : Step.resolve call cache = (.ok step, after))
    (hlater : Grown after later) :
    ∃ addressed, address call step later = (.ok addressed, later) := by
  obtain ⟨family, text, span, -, -, heq⟩ | ⟨outcome, heq, -⟩ := Step.resolve_cases call
  · rw [heq] at he
    obtain ⟨found, hfound, rfl⟩ := map_eq_ok.1 he
    have hrequest := formatter_eq_ok.1 hfound
    obtain ⟨-, -, hparse⟩ := h.getOrInsert_ok hrequest
    obtain ⟨hfamily, hpattern⟩ := Formatter.family_pattern_of_parse hparse
    have hagain := h.getOrInsert_again hrequest hlater
    refine ⟨.format found.1, map_eq_ok.2 ⟨found, ?_, rfl⟩⟩
    rw [hfamily, hpattern]
    exact formatter_eq_ok.2 hagain
  · rw [heq] at he
    cases outcome with
    | error e => cases he
    | ok op =>
        cases he
        exact ⟨.operation op, rfl⟩

theorem address_traverse {calls : List FilterCall} {steps : List (Step Formatter)}
    {cache after later : FormatCache} (h : cache.WellFormed)
    (he : Step.resolveAll calls cache = (.ok steps, after)) (hlater : Grown after later) :
    ∃ addressed, traverse (fun (call, step) => address call step) (calls.zip steps) later =
      (.ok addressed, later) := by
  induction calls generalizing cache steps with
  | nil =>
      obtain ⟨rfl, -⟩ := traverse_nil_eq_ok.1 he
      exact ⟨[], rfl⟩
  | cons call calls ih =>
      obtain ⟨step, rest, middle, hstep, hrest, rfl⟩ := traverse_cons_eq_ok.1 he
      have hmiddle := ((Step.resolve_lawful call).grown_of_eq h hstep).wellFormed
      have hafter := (Step.resolveAll_lawful calls).grown_of_eq hmiddle hrest
      obtain ⟨first, hfirst⟩ := address_again h hstep (hafter.trans hlater)
      obtain ⟨others, hothers⟩ := ih hmiddle hrest
      exact ⟨first :: others, traverse_cons_eq_ok.2 ⟨first, others, later, hfirst, hothers, rfl⟩⟩

/-- Addressing the steps of a pipeline adds nothing to resolving them. -/
theorem effect_addressAll (calls : List FilterCall) {cache : FormatCache} (h : cache.WellFormed) :
    (addressAll calls).effect cache = (Step.resolveAll calls).effect cache := by
  rw [effect_eq, effect_eq, addressAll, Resolution.bind]
  cases hsteps : Step.resolveAll calls cache with
  | mk outcome after =>
      cases outcome with
      | error e => rfl
      | ok steps =>
          have hafter := ((Step.resolveAll_lawful calls).grown_of_eq h hsteps).wellFormed
          obtain ⟨addressed, haddressed⟩ := address_traverse h hsteps (.refl hafter)
          simp only [haddressed, Except.map]

theorem effect_segmentLines (parameter : String) (segment : Segment) {cache : FormatCache}
    (h : cache.WellFormed) :
    (segmentLines parameter segment).effect cache = (Part.ofSegment segment).effect cache := by
  cases segment with
  | literal text span => rfl
  | interpolation i =>
      rw [segmentLines, Part.ofSegment, effect_map, effect_map]
      exact effect_addressAll i.filters h

/-- Emitting a template has the effect of building its plan. -/
theorem effect_lines (t : Template) {parameter : String} (hparameter : isParameter parameter)
    {cache : FormatCache} (h : cache.WellFormed) :
    (lines t parameter).effect cache = (Plan.build t).effect cache := by
  rw [lines, if_pos hparameter, Plan.build, effect_map, effect_map]
  exact effect_traverse_congr Part.ofSegment_lawful
    (fun segment _ => effect_segmentLines parameter segment) t.segments h

theorem cache_ofTemplate (t : Template) (parameter : String) (collected : List String)
    (cache : FormatCache) :
    (ofTemplate t parameter collected cache).cache = (lines t parameter cache).2 := by
  rw [ofTemplate]
  split <;> simp_all

theorem source_ofTemplate (t : Template) (parameter : String) (collected : List String)
    (cache : FormatCache) :
    (ofTemplate t parameter collected cache).source =
      (lines t parameter cache).1.map sourceText := by
  rw [ofTemplate]
  split <;> simp_all [Except.map]

theorem cache_ofTemplate_eq_build (t : Template) {parameter : String}
    (hparameter : isParameter parameter) (collected : List String) {cache : FormatCache}
    (h : cache.WellFormed) :
    (ofTemplate t parameter collected cache).cache = (Plan.build t cache).2 := by
  rw [cache_ofTemplate, ← effect_snd, effect_lines t hparameter h, effect_snd]

theorem source_eq_error_iff (t : Template) {parameter : String}
    (hparameter : isParameter parameter) (collected : List String) {cache : FormatCache}
    (h : cache.WellFormed) (e : CompileError) :
    (ofTemplate t parameter collected cache).source = .error e ↔
      (Plan.build t cache).1 = .error e := by
  rw [← effect_eq_error_iff, ← effect_lines t hparameter h, effect_eq_error_iff,
    source_ofTemplate]
  cases (lines t parameter cache).1 <;> simp [Except.map]

/-- Under a name that can bind the context, emitting a template leaves the cache that building its
plan leaves, and fails with the error that this fails with. If it does not fail, then both succeed
again in every later state of the cache, and add nothing. -/
theorem ofTemplate_agrees_build (t : Template) {parameter : String}
    (hparameter : isParameter parameter) (collected : List String) {cache : FormatCache}
    (h : Reachable cache) :
    let emission := ofTemplate t parameter collected cache
    let built := Plan.build t cache
    emission.cache = built.2 ∧
    (∀ e, emission.source = .error e ↔ built.1 = .error e) ∧
    ∀ plan, built.1 = .ok plan → ∀ further : List Action, .clear ∉ further →
      let later := built.2.run further
      Plan.build t later = (.ok plan, later) ∧
      ∀ other names, isParameter other →
        (ofTemplate t other names later).cache = later ∧
        ∃ source, (ofTemplate t other names later).source = .ok source := by
  intro emission built
  refine ⟨cache_ofTemplate_eq_build t hparameter collected h.wellFormed,
    source_eq_error_iff t hparameter collected h.wellFormed, fun plan hplan further hclear => ?_⟩
  intro later
  have hbuilt : Plan.build t cache = (.ok plan, built.2) := Prod.ext hplan rfl
  have hafter := ((Plan.build_lawful t).grown_of_eq h.wellFormed hbuilt).wellFormed
  have hlater : Grown built.2 later := hafter.grown_run hclear
  have hagain : Plan.build t later = (.ok plan, later) :=
    (Plan.build_lawful t).again h.wellFormed hbuilt hlater
  refine ⟨hagain, fun other names hother => ⟨?_, ?_⟩⟩
  · rw [cache_ofTemplate_eq_build t hother names hlater.wellFormed, hagain]
  · cases hsource : (ofTemplate t other names later).source with
    | ok source => exact ⟨source, rfl⟩
    | error e =>
        rw [source_eq_error_iff t hother names hlater.wellFormed, hagain] at hsource
        cases hsource

/-- The formatter of the first interpolation is stored before the second one fails, which is in a
family where the same pattern is another one. -/
theorem ofTemplate_agrees_build_failed :
    let cache := (empty.getOrInsert .time "d").2
    let path : Path := ⟨"a", ["b c"], .dummy⟩
    let first : Interpolation := ⟨path, [⟨.number, [.str "d" .dummy], .dummy⟩], .dummy⟩
    let second : Interpolation :=
      ⟨path, [⟨.time, [.str "d" .dummy], .dummy⟩, ⟨.number, [.str "q" ⟨3, 6⟩], .dummy⟩], .dummy⟩
    let t : Template := ⟨[.interpolation first, .interpolation second]⟩
    let emission := ofTemplate t "obj" ["x"] cache
    (emission.source.toOption = none ∧ (∀ e, emission.source = .error e ↔
      (Plan.build t cache).1 = .error e) ∧ emission.cache = (Plan.build t cache).2 ∧
      emission.cache.entries = [(.time, "d"), (.number, "d")]) ∧
    ∃ plan, (Plan.build ⟨[.interpolation first]⟩ cache).1 = .ok plan ∧
      let later := (Plan.build ⟨[.interpolation first]⟩ cache).2.run [.getOrInsert .time "%Y"]
      (ofTemplate ⟨[.interpolation first]⟩ "ctx" [] later).cache = later := by
  intro cache path first second t emission
  have hcache : Reachable cache := .getOrInsert .empty .time "d"
  have hparameter : isParameter "obj" := by decide
  obtain ⟨hafter, herrors, -⟩ := ofTemplate_agrees_build t hparameter ["x"] hcache
  obtain ⟨-, -, hagain⟩ :=
    ofTemplate_agrees_build ⟨[.interpolation first]⟩ hparameter [] hcache
  refine ⟨⟨by decide +kernel, herrors, hafter, by decide +kernel⟩, ?_⟩
  have hsome : (Plan.build ⟨[.interpolation first]⟩ cache).1.toOption.isSome := by decide +kernel
  obtain ⟨plan, hplan⟩ := Option.isSome_iff_exists.1 hsome
  have hok := eq_ok_of_toOption hplan
  exact ⟨plan, hok, ((hagain plan hok [.getOrInsert .time "%Y"] (by decide)).2 "ctx" []
    (by decide)).1⟩

end TextTemplate.Emission
