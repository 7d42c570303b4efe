import TextTemplate.Proofs.ResolutionLaws
import TextTemplate.Proofs.ZeroSigns

/-!
What a template reads from its context. Every path has a first name, which is the only thing that
the context itself is asked for, and the template lists it. So the text that is rendered depends on
nothing in the context but the properties of the listed names, and these matter no further than
they can be told apart by comparing them.
-/
namespace TextTemplate

/-- A result of a list is the result of one of its elements. -/
theorem Resolution.exists_of_mem_traverse {α β : Type} {f : α → Resolution β} {as : List α}
    {bs : List β} {cache after : FormatCache} (h : traverse f as cache = (.ok bs, after)) {b : β}
    (hb : b ∈ bs) : ∃ a ∈ as, ∃ before behind, f a before = (.ok b, behind) := by
  induction as generalizing cache bs with
  | nil =>
      obtain ⟨rfl, -⟩ := traverse_nil_eq_ok.1 h
      cases hb
  | cons a as ih =>
      obtain ⟨first, rest, middle, hfirst, hrest, rfl⟩ := traverse_cons_eq_ok.1 h
      cases hb with
      | head => exact ⟨a, List.mem_cons_self, cache, middle, hfirst⟩
      | tail _ hb =>
          obtain ⟨a', ha', hfound⟩ := ih hrest hb
          exact ⟨a', List.mem_cons_of_mem _ ha', hfound⟩

namespace Value

/-- Both contexts lack the property, or both have it, with values that differ at most in signs of
zeros; values that compare equal do. -/
def Agree (c d : Value) (name : String) : Prop :=
  Option.Rel Alike (c.get? name) (d.get? name)

/-- A path that is not empty leads to the same place from contexts that agree on its first name. -/
theorem Agree.lookup {c d : Value} {root : String} (h : Agree c d root) (rest : List String) :
    (c.lookup (root :: rest)).Alike (d.lookup (root :: rest)) := by
  rw [Agree] at h
  rw [Value.lookup, Value.lookup]
  generalize c.get? root = v, d.get? root = w at h ⊢
  cases h with
  | none => rfl
  | some halike => rw [Alike, ← lookup_unsignedZeros, halike, lookup_unsignedZeros]

end Value

theorem Part.chars_congr (path : Path) (steps : List (Step Formatter)) {c d : Value}
    (h : c.Agree d path.root) :
    (interpolation path.names steps).chars c = (interpolation path.names steps).chars d :=
  Step.chars_applyAll_congr steps (h.lookup path.rest)

/-- A part of a plan is literal text or belongs to an interpolation of the template. -/
theorem Plan.mem_parts_of_build {t : Template} {cache after : FormatCache} {plan : Plan}
    (h : build t cache = (.ok plan, after)) {part : Part} (hpart : part ∈ plan.parts) :
    (∃ text, part = .literal text) ∨
      ∃ i ∈ t.interpolations, ∃ steps, part = .interpolation i.path.names steps := by
  obtain ⟨parts, hparts, rfl⟩ := Resolution.map_eq_ok.1 h
  obtain ⟨segment, hsegment, before, behind, heq⟩ := Resolution.exists_of_mem_traverse hparts hpart
  cases segment with
  | literal text span =>
      cases heq
      exact .inl ⟨text, rfl⟩
  | interpolation i =>
      obtain ⟨steps, -, rfl⟩ := Resolution.map_eq_ok.1 heq
      exact .inr ⟨i, List.mem_filterMap.2 ⟨_, hsegment, rfl⟩, steps, rfl⟩

theorem Template.root_mem_rootNames {t : Template} {i : Interpolation}
    (h : i ∈ t.interpolations) : i.path.root ∈ t.rootNames :=
  List.mem_eraseDups.2 (List.mem_map.2 ⟨i, h, rfl⟩)

namespace CompiledTemplate
open Value

theorem build_of_compile {source : String} {t : CompiledTemplate} {cache : FormatCache}
    (h : (compile source cache).1 = .ok t) :
    ∃ after, Plan.build t.template cache = (.ok t.plan, after) := by
  obtain ⟨after, h⟩ := Resolution.outcome_eq_ok_iff.1 h
  obtain ⟨-, -, hplan⟩ := parse_build_of_compile h
  exact ⟨after, hplan⟩

/-- A compiled template renders two contexts to the same text if they agree on each name that it
lists, whatever else they are: both lack it, or both have it with values that are identical or
compare equal. A template that interpolates nothing renders all contexts to the same text. -/
theorem evaluate_congr {source : String} {cache : FormatCache} {t : CompiledTemplate}
    (h : (compile source cache).1 = .ok t) :
    (∀ c d : Value, (∀ name ∈ t.referencedProperties, c.Agree d name) →
      t.evaluate c = t.evaluate d) ∧
    (t.isStatic = true → ∀ c d : Value, t.evaluate c = t.evaluate d) := by
  have hcongr (c d : Value) (hagree : ∀ name ∈ t.referencedProperties, c.Agree d name) :
      t.evaluate c = t.evaluate d := by
    obtain ⟨after, hbuild⟩ := build_of_compile h
    have hparts : ∀ part ∈ t.plan.parts, part.chars c = part.chars d := by
      intro part hpart
      obtain ⟨text, rfl⟩ | ⟨i, hi, steps, rfl⟩ := Plan.mem_parts_of_build hbuild hpart
      · rfl
      · exact Part.chars_congr i.path steps (hagree _ (Template.root_mem_rootNames hi))
    simp only [evaluate, Plan.evaluate, Plan.chars, List.flatMap_def, List.map_congr_left hparts]
  refine ⟨hcongr, fun hstatic c d => hcongr c d ?_⟩
  have hnone : t.template.interpolations = [] := List.isEmpty_iff.1 hstatic
  simp [referencedProperties, Template.rootNames, hnone]

/-- A list and an object with further fields, which differ in the sign of a zero. -/
theorem evaluate_congr_shapes :
    let c : Value := .list [.object [("b", .number (.finite true .zero))]]
    let d : Value := .object [("0", .object [("b", .number (.finite false .zero))]), ("1", .null)]
    (∃ t, (compile "\x7b\x7b0.b|number:'.1f'\x7d\x7d" .empty).1 = .ok t ∧
      t.referencedProperties = ["0"] ∧ t.evaluate c = t.evaluate d) ∧
    ∃ t, (compile "a" .empty).1 = .ok t ∧ t.isStatic = true ∧ t.evaluate c = t.evaluate d := by
  intro c d
  refine ⟨?_, ?_⟩
  · have hcompiled : (compile "\x7b\x7b0.b|number:'.1f'\x7d\x7d" .empty).1.toOption.map
        referencedProperties = some ["0"] := by decide +kernel
    obtain ⟨t, ht, hnames⟩ := Option.map_eq_some_iff.1 hcompiled
    have hok := eq_ok_of_toOption ht
    refine ⟨t, hok, hnames, (evaluate_congr hok).1 c d fun name hname => ?_⟩
    rw [hnames, List.mem_singleton] at hname
    subst hname
    exact .some (alike_of_equal _ _ (by decide +kernel))
  · have hcompiled : (compile "a" .empty).1.toOption.map isStatic = some true := by decide +kernel
    obtain ⟨t, ht, hstatic⟩ := Option.map_eq_some_iff.1 hcompiled
    have hok := eq_ok_of_toOption ht
    exact ⟨t, hok, hstatic, (evaluate_congr hok).2 hstatic c d⟩

end CompiledTemplate

end TextTemplate
