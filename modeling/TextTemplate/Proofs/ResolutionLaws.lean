import TextTemplate.CompiledTemplate
import TextTemplate.Proofs.CacheInvariant

/-!
Two laws of resolutions. A lawful one only adds to a cache, and once it has succeeded it does so
again with the same outcome in every later state of the cache, to which it adds nothing. A stable
one has the same outcome in every cache, which is so wherever formatters are used and not their
positions.
-/
namespace TextTemplate
open FormatCache

namespace Resolution

variable {α β : Type}

structure Lawful (r : Resolution α) : Prop where
  grown : ∀ {cache}, cache.WellFormed → Grown cache (r cache).2
  again : ∀ {cache a after later}, cache.WellFormed → r cache = (.ok a, after) →
    Grown after later → r later = (.ok a, later)

def Stable (r : Resolution α) : Prop :=
  ∀ cache cache', cache.WellFormed → cache'.WellFormed → (r cache).1 = (r cache').1

theorem outcome_eq_ok_iff {r : Resolution α} {cache : FormatCache} {a : α} :
    (r cache).1 = .ok a ↔ ∃ after, r cache = (.ok a, after) := by
  constructor
  · exact fun h => ⟨(r cache).2, Prod.ext h rfl⟩
  · intro h
    obtain ⟨after, h⟩ := h
    rw [h]

theorem Lawful.grown_of_eq {r : Resolution α} (hr : r.Lawful) {cache after : FormatCache}
    (h : cache.WellFormed) {outcome : Except CompileError α} (he : r cache = (outcome, after)) :
    Grown cache after := by
  have := hr.grown h
  rwa [he] at this

theorem ofExcept_lawful (outcome : Except CompileError α) : (ofExcept outcome).Lawful where
  grown h := .refl h
  again _ he _ := by
    simp only [ofExcept, Prod.mk.injEq] at he
    simp only [ofExcept, he.1]

theorem ofExcept_stable (outcome : Except CompileError α) : (ofExcept outcome).Stable :=
  fun _ _ _ _ => rfl

theorem bind_eq_ok {r : Resolution α} {f : α → Resolution β} {cache after : FormatCache} {b : β} :
    r.bind f cache = (.ok b, after) ↔
      ∃ a middle, r cache = (.ok a, middle) ∧ f a middle = (.ok b, after) := by
  cases hr : r cache with
  | mk outcome middle => cases outcome <;> simp [bind, hr, and_assoc]

theorem bind_lawful {r : Resolution α} {f : α → Resolution β} (hr : r.Lawful)
    (hf : ∀ a, (f a).Lawful) : (r.bind f).Lawful where
  grown {cache} h := by
    cases he : r cache with
    | mk outcome middle =>
        have hmiddle := hr.grown_of_eq h he
        cases outcome with
        | ok a => simpa [bind, he] using hmiddle.trans ((hf a).grown hmiddle.wellFormed)
        | error e => simpa [bind, he] using hmiddle
  again {cache b after later} h he hlater := by
    obtain ⟨a, middle, hra, hfa⟩ := bind_eq_ok.1 he
    have hmiddle := (hr.grown_of_eq h hra).wellFormed
    have hafter := (hf a).grown_of_eq hmiddle hfa
    exact bind_eq_ok.2
      ⟨a, later, hr.again h hra (hafter.trans hlater), (hf a).again hmiddle hfa hlater⟩

theorem bind_stable {r : Resolution α} {f : α → Resolution β} (hr : r.Lawful) (hs : r.Stable)
    (hf : ∀ a, (f a).Stable) : (r.bind f).Stable := by
  intro cache cache' h h'
  have hout := hs cache cache' h h'
  cases he : r cache with
  | mk outcome middle =>
      cases he' : r cache' with
      | mk outcome' middle' =>
          have hmiddle := hr.grown_of_eq h he
          have hmiddle' := hr.grown_of_eq h' he'
          rw [he, he'] at hout
          cases hout
          cases outcome with
          | ok a =>
              have hrest := hf a middle middle' hmiddle.wellFormed hmiddle'.wellFormed
              simpa [bind, he, he'] using hrest
          | error e => simp [bind, he, he']

theorem map_eq_ok {r : Resolution α} {f : α → β} {cache after : FormatCache} {b : β} :
    r.map f cache = (.ok b, after) ↔ ∃ a, r cache = (.ok a, after) ∧ f a = b := by
  simp only [map, bind_eq_ok, succeed, ofExcept, Prod.mk.injEq, Except.ok.injEq]
  constructor
  · intro h
    obtain ⟨a, middle, hr, hb, hafter⟩ := h
    exact ⟨a, hafter ▸ hr, hb⟩
  · intro h
    obtain ⟨a, hr, hb⟩ := h
    exact ⟨a, after, hr, hb, rfl⟩

theorem map_lawful {r : Resolution α} (hr : r.Lawful) (f : α → β) : (r.map f).Lawful :=
  bind_lawful hr fun _ => ofExcept_lawful _

theorem map_stable {r : Resolution α} (hr : r.Lawful) (hs : r.Stable) (f : α → β) :
    (r.map f).Stable :=
  bind_stable hr hs fun _ => ofExcept_stable _

theorem traverse_nil_eq_ok {f : α → Resolution β} {cache after : FormatCache} {bs : List β} :
    traverse f [] cache = (.ok bs, after) ↔ bs = [] ∧ after = cache := by
  simp only [traverse, succeed, ofExcept, Prod.mk.injEq, Except.ok.injEq]
  exact and_congr eq_comm eq_comm

theorem traverse_cons_eq_ok {f : α → Resolution β} {a : α} {as : List α}
    {cache after : FormatCache} {bs : List β} :
    traverse f (a :: as) cache = (.ok bs, after) ↔
      ∃ b rest middle, f a cache = (.ok b, middle) ∧
        traverse f as middle = (.ok rest, after) ∧ bs = b :: rest := by
  simp only [traverse, bind_eq_ok, map_eq_ok]
  constructor
  · intro h
    obtain ⟨b, middle, hb, rest, hrest, hbs⟩ := h
    exact ⟨b, rest, middle, hb, hrest, hbs.symm⟩
  · intro h
    obtain ⟨b, rest, middle, hb, hrest, hbs⟩ := h
    exact ⟨b, middle, hb, rest, hrest, hbs.symm⟩

theorem traverse_lawful {f : α → Resolution β} (hf : ∀ a, (f a).Lawful) (as : List α) :
    (traverse f as).Lawful := by
  induction as with
  | nil => exact ofExcept_lawful _
  | cons a as ih => exact bind_lawful (hf a) fun b => map_lawful ih _

theorem traverse_stable {f : α → Resolution β} (hf : ∀ a, (f a).Lawful)
    (hs : ∀ a, (f a).Stable) (as : List α) : (traverse f as).Stable := by
  induction as with
  | nil => exact ofExcept_stable _
  | cons a as ih =>
      exact bind_stable (hf a) (hs a) fun b => map_stable (traverse_lawful hf as) ih _

theorem formatter_eq_ok {family : Family} {pattern : String} {span : Span}
    {cache after : FormatCache} {found : Nat × StoredFormatter} :
    formatter family pattern span cache = (.ok found, after) ↔
      cache.getOrInsert family pattern = (.ok found, after) := by
  cases h : cache.getOrInsert family pattern with
  | mk outcome after' => cases outcome <;> simp [formatter, h]

theorem formatter_lawful (family : Family) (pattern : String) (span : Span) :
    (formatter family pattern span).Lawful where
  grown {cache} h := by
    have hgrown := h.grown_getOrInsert family pattern
    cases he : cache.getOrInsert family pattern with
    | mk outcome after =>
        rw [he] at hgrown
        cases outcome <;> simpa [formatter, he] using hgrown
  again h he hlater :=
    formatter_eq_ok.2 (h.getOrInsert_again (formatter_eq_ok.1 he) hlater)

/-- The formatter of a pattern, and the error of one that cannot be read, are those of reading
the pattern afresh. -/
theorem formatter_outcome (family : Family) (pattern : String) (span : Span)
    {cache : FormatCache} (h : cache.WellFormed) {β : Type} (f : Formatter → β) :
    ((formatter family pattern span).map (fun found => f found.2.formatter) cache).1 =
      match Formatter.parse family pattern with
      | .ok parsed => .ok (f parsed)
      | .error e => .error ⟨e.fault, span⟩ := by
  obtain ⟨position, s, -, hparse, heq⟩ | ⟨parsed, hparse, -, -, heq⟩ | ⟨e, hparse, heq⟩ :=
    h.getOrInsert_cases family pattern <;>
  simp [map, bind, succeed, ofExcept, formatter, heq, hparse]

end Resolution

namespace Step
open Resolution

/-- The only argument of a filter that takes a pattern is its pattern; all other calls are decoded.
-/
theorem resolve_eq (call : FilterCall) :
    (∃ family pattern, call.filter.family? = some family ∧ call.args = [pattern] ∧
      resolve call = resolveFormat call.filter family pattern) ∨
    resolve call = Resolution.ofExcept ((Operation.ofCall call).map operation) := by
  rw [resolve]
  split
  · rename_i family pattern hfamily hargs
    exact .inl ⟨family, pattern, hfamily, hargs, rfl⟩
  · exact .inr rfl

/-- What resolving a call can do: ask for the formatter of its only argument, or answer without
the cache. -/
theorem resolve_cases (call : FilterCall) :
    (∃ family text span, call.filter.family? = some family ∧ call.args = [.str text span] ∧
      resolve call = (formatter family text span).map fun found => format found.2.formatter) ∨
    (∃ outcome : Except CompileError Operation,
      resolve call = Resolution.ofExcept (outcome.map operation) ∧
      ∀ op, outcome = .ok op → Operation.ofCall call = .ok op) := by
  obtain ⟨family, pattern, hfamily, hargs, heq⟩ | heq := resolve_eq call
  · cases pattern with
    | str text span => exact .inl ⟨family, text, span, hfamily, hargs, heq⟩
    | number _ _ | keyword _ _ => exact .inr ⟨.error _, heq, by simp⟩
  · exact .inr ⟨_, heq, fun op h => h⟩

theorem resolve_lawful (call : FilterCall) : (resolve call).Lawful := by
  obtain ⟨family, text, span, -, -, heq⟩ | ⟨outcome, heq, -⟩ := resolve_cases call
  · rw [heq]
    exact map_lawful (formatter_lawful family text span) _
  · rw [heq]
    exact ofExcept_lawful _

theorem resolve_stable (call : FilterCall) : (resolve call).Stable := by
  obtain ⟨family, text, span, -, -, heq⟩ | ⟨outcome, heq, -⟩ := resolve_cases call
  · intro cache cache' h h'
    rw [heq]
    exact (formatter_outcome family text span h format).trans
      (formatter_outcome family text span h' format).symm
  · rw [heq]
    exact ofExcept_stable _

theorem resolveAll_lawful (calls : List FilterCall) : (resolveAll calls).Lawful :=
  traverse_lawful resolve_lawful calls

theorem resolveAll_stable (calls : List FilterCall) : (resolveAll calls).Stable :=
  traverse_stable resolve_lawful resolve_stable calls

end Step

namespace Part
open Resolution

theorem ofSegment_lawful (segment : Segment) : (ofSegment segment).Lawful := by
  cases segment with
  | literal text span => exact ofExcept_lawful _
  | interpolation i => exact map_lawful (Step.resolveAll_lawful i.filters) _

theorem ofSegment_stable (segment : Segment) : (ofSegment segment).Stable := by
  cases segment with
  | literal text span => exact ofExcept_stable _
  | interpolation i =>
      exact map_stable (Step.resolveAll_lawful i.filters) (Step.resolveAll_stable i.filters) _

end Part

namespace Plan
open Resolution

theorem build_lawful (t : Template) : (build t).Lawful :=
  map_lawful (traverse_lawful Part.ofSegment_lawful t.segments) _

/-- The plan of a template and the error of one that has none are the same in every cache. -/
theorem build_stable (t : Template) : (build t).Stable :=
  map_stable (traverse_lawful Part.ofSegment_lawful t.segments)
    (traverse_stable Part.ofSegment_lawful Part.ofSegment_stable t.segments) _

end Plan

namespace CompiledTemplate
open Resolution

theorem compile_lawful (source : String) : (compile source).Lawful := by
  rw [compile]
  split
  · exact ofExcept_lawful _
  · exact map_lawful (Plan.build_lawful _) _

theorem compile_stable (source : String) : (compile source).Stable := by
  rw [compile]
  split
  · exact ofExcept_stable _
  · exact map_stable (Plan.build_lawful _) (Plan.build_stable _) _

theorem compile_eq_ok_iff {source : String} {t : Template} (hparse : Template.parse source = .ok t)
    {cache after : FormatCache} {compiled : CompiledTemplate} :
    compile source cache = (.ok compiled, after) ↔
      ∃ plan, Plan.build t cache = (.ok plan, after) ∧ compiled = ⟨source, t, plan⟩ := by
  simp only [compile, hparse, map_eq_ok]
  exact exists_congr fun plan => and_congr_right fun _ => eq_comm

theorem parse_build_of_compile {source : String} {t : CompiledTemplate}
    {cache after : FormatCache} (h : compile source cache = (.ok t, after)) :
    t.source = source ∧ Template.parse source = .ok t.template ∧
      Plan.build t.template cache = (.ok t.plan, after) := by
  cases hparse : Template.parse source with
  | ok template =>
      obtain ⟨plan, hplan, rfl⟩ := (compile_eq_ok_iff hparse).1 h
      exact ⟨rfl, rfl, hplan⟩
  | error e =>
      rw [compile, hparse] at h
      cases h

theorem source_of_compile {source : String} {t : CompiledTemplate} {cache after : FormatCache}
    (h : compile source cache = (.ok t, after)) : t.source = source :=
  (parse_build_of_compile h).1

end CompiledTemplate
end TextTemplate
