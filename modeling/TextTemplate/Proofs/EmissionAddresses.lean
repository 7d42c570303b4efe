import TextTemplate.Emission.Basic
import TextTemplate.Proofs.OperationBounds
import TextTemplate.Proofs.ResolutionLaws

/-!
Addresses of formatters in emitted steps. Emission adds to the cache what building a plan adds,
and each position that it writes stands for the formatter of the step it comes from, in the cache
behind the emission and in every later state of it.
-/
namespace TextTemplate
open FormatCache Resolution

namespace Step

/-- The numbers of the step are in range, and its formatter is what reading its own pattern
gives. -/
def Resolved : Step Formatter → Prop
  | operation op => op.Bounded
  | format f => Formatter.parse f.family f.pattern = .ok f

theorem resolved_of_resolve {call : FilterCall} {step : Step Formatter} {cache after : FormatCache}
    (h : cache.WellFormed) (he : resolve call cache = (.ok step, after)) : step.Resolved := by
  obtain ⟨family, text, span, -, -, heq⟩ | ⟨outcome, heq, hoperation⟩ := resolve_cases call
  · rw [heq] at he
    obtain ⟨found, hfound, rfl⟩ := map_eq_ok.1 he
    obtain ⟨-, -, hparse⟩ := h.getOrInsert_ok (formatter_eq_ok.1 hfound)
    obtain ⟨hfamily, hpattern⟩ := Formatter.family_pattern_of_parse hparse
    simpa only [Resolved, hfamily, hpattern] using hparse
  · rw [heq] at he
    cases outcome with
    | ok op =>
        simp only [Resolution.ofExcept, Except.map, Prod.mk.injEq, Except.ok.injEq] at he
        rw [← he.1]
        exact (Operation.ofCall_eq_ok_iff.1 (hoperation op rfl)).bounded
    | error e => simp [Resolution.ofExcept, Except.map] at he

theorem resolved_of_resolveAll {calls : List FilterCall} {steps : List (Step Formatter)}
    {cache after : FormatCache} (h : cache.WellFormed)
    (he : resolveAll calls cache = (.ok steps, after)) :
    steps.length = calls.length ∧ ∀ step ∈ steps, step.Resolved := by
  induction calls generalizing cache steps with
  | nil =>
      obtain ⟨rfl, -⟩ := traverse_nil_eq_ok.1 he
      simp
  | cons call calls ih =>
      obtain ⟨step, rest, middle, hstep, hrest, rfl⟩ := traverse_cons_eq_ok.1 he
      obtain ⟨hlength, hresolved⟩ := ih ((resolve_lawful call).grown_of_eq h hstep).wellFormed hrest
      refine ⟨by simp [hlength], ?_⟩
      simp only [List.mem_cons, forall_eq_or_imp]
      exact ⟨resolved_of_resolve h hstep, hresolved⟩

end Step

namespace Emission

/-- The step that an addressed one stands for, with formatters by position. -/
def dereference? (formatters : List Formatter) : Step Nat → Option (Step Formatter)
  | .operation op => some (.operation op)
  | .format position => (formatters[position]?).map .format

theorem address_lawful (call : FilterCall) (step : Step Formatter) :
    (address call step).Lawful := by
  cases step with
  | operation op => exact ofExcept_lawful _
  | format f => exact map_lawful (formatter_lawful _ _ _) _

theorem addressAll_lawful (calls : List FilterCall) : (addressAll calls).Lawful :=
  bind_lawful (Step.resolveAll_lawful calls) fun _ =>
    traverse_lawful (fun pair : FilterCall × Step Formatter => address_lawful pair.1 pair.2) _

theorem segmentLines_lawful (parameter : String) (segment : Segment) :
    (segmentLines parameter segment).Lawful := by
  cases segment with
  | literal text span => exact ofExcept_lawful _
  | interpolation i => exact map_lawful (addressAll_lawful i.filters) _

theorem lines_lawful (t : Template) (parameter : String) : (lines t parameter).Lawful := by
  rw [lines]
  split
  · exact map_lawful (traverse_lawful (segmentLines_lawful parameter) t.segments) _
  · exact ofExcept_lawful _

theorem grown_ofTemplate {t : Template} {parameter : String} {collected : List String}
    {cache : FormatCache} (h : cache.WellFormed) :
    Grown cache (ofTemplate t parameter collected cache).cache := by
  have hgrown := (lines_lawful t parameter).grown h
  rw [ofTemplate]
  cases he : lines t parameter cache with
  | mk outcome after =>
      rw [he] at hgrown
      cases outcome <;> exact hgrown

theorem grown_ofSource {source parameter : String} {collected : List String}
    {cache : FormatCache} (h : cache.WellFormed) :
    Grown cache (ofSource source parameter collected cache).cache := by
  rw [ofSource]
  split
  · exact grown_ofTemplate h
  · exact .refl h

theorem dereference?_address {call : FilterCall} {step : Step Formatter} {addressed : Step Nat}
    {cache after later : FormatCache} (h : cache.WellFormed) (hp : step.Resolved)
    (he : address call step cache = (.ok addressed, after)) (hlater : Grown after later) :
    dereference? later.formatters addressed = some step := by
  cases step with
  | operation op =>
      simp only [address, succeed, Resolution.ofExcept, Prod.mk.injEq, Except.ok.injEq] at he
      rw [← he.1]
      rfl
  | format f =>
      obtain ⟨found, hfound, rfl⟩ := map_eq_ok.1 he
      obtain ⟨-, hstored, hparse⟩ := h.getOrInsert_ok (formatter_eq_ok.1 hfound)
      have hf : found.2.formatter = f := Except.ok.inj (hparse.symm.trans hp)
      simp [dereference?, formatters, getElem?_of_prefix hlater.stored_prefix hstored, hf]

theorem dereference?_traverse {pairs : List (FilterCall × Step Formatter)}
    {addressed : List (Step Nat)} {cache after later : FormatCache} (h : cache.WellFormed)
    (hp : ∀ pair ∈ pairs, pair.2.Resolved)
    (he : traverse (fun (call, step) => address call step) pairs cache = (.ok addressed, after))
    (hlater : Grown after later) :
    addressed.map (dereference? later.formatters) = pairs.map (some ·.2) := by
  induction pairs generalizing cache addressed with
  | nil =>
      obtain ⟨rfl, -⟩ := traverse_nil_eq_ok.1 he
      rfl
  | cons pair pairs ih =>
      obtain ⟨first, rest, middle, hfirst, hrest, rfl⟩ := traverse_cons_eq_ok.1 he
      have hmiddle := ((address_lawful pair.1 pair.2).grown_of_eq h hfirst).wellFormed
      have hafter := (traverse_lawful (fun pair => address_lawful pair.1 pair.2)
        pairs).grown_of_eq hmiddle hrest
      rw [List.forall_mem_cons] at hp
      rw [List.map_cons, List.map_cons, ih hmiddle hp.2 hrest,
        dereference?_address h hp.1 hfirst (hafter.trans hlater)]

/-- The addressed steps of a pipeline stand for its resolved ones, also when the cache grows while
the rest of the template is emitted. -/
theorem dereference?_addressAll {calls : List FilterCall} {addressed : List (Step Nat)}
    {cache after : FormatCache} (h : cache.WellFormed)
    (he : addressAll calls cache = (.ok addressed, after)) :
    ∃ steps, (Step.resolveAll calls cache).1 = .ok steps ∧ (∀ step ∈ steps, step.Resolved) ∧
      ∀ later, Grown after later →
        addressed.map (dereference? later.formatters) = steps.map some := by
  obtain ⟨steps, middle, hsteps, haddressed⟩ := bind_eq_ok.1 he
  obtain ⟨hlength, hresolved⟩ := Step.resolved_of_resolveAll h hsteps
  have hmiddle := ((Step.resolveAll_lawful calls).grown_of_eq h hsteps).wellFormed
  refine ⟨steps, by rw [hsteps], hresolved, fun later hlater => ?_⟩
  have hpairs : ∀ pair ∈ calls.zip steps, pair.2.Resolved :=
    fun pair hpair => hresolved _ (List.of_mem_zip hpair).2
  calc addressed.map (dereference? later.formatters)
      = (calls.zip steps).map (some ·.2) :=
        dereference?_traverse hmiddle hpairs haddressed hlater
    _ = ((calls.zip steps).map Prod.snd).map some := by rw [List.map_map]; rfl
    _ = steps.map some := by rw [List.map_snd_zip (Nat.le_of_eq hlength)]

end Emission
end TextTemplate
