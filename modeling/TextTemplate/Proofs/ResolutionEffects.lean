import TextTemplate.Proofs.ResolutionLaws

/-!
What resolutions do, apart from what they return: the error that one of them fails with, and the
cache that it leaves. In this sense building a plan is resolving the filter calls of the template
one after the other; neither literal text nor the grouping of calls into interpolations matters.
-/
namespace TextTemplate

namespace Resolution

variable {α β γ : Type}

/-- The resolution without its result. -/
def effect (r : Resolution α) : Resolution Unit := r.map fun _ => ()

theorem effect_eq (r : Resolution α) (cache : FormatCache) :
    r.effect cache = ((r cache).1.map fun _ => (), (r cache).2) := by
  cases h : r cache with
  | mk outcome after => cases outcome <;> simp [effect, map, bind, succeed, ofExcept, h, Except.map]

theorem effect_snd (r : Resolution α) (cache : FormatCache) :
    (r.effect cache).2 = (r cache).2 := by
  rw [effect_eq]

theorem effect_eq_error_iff {r : Resolution α} {cache : FormatCache} {e : CompileError} :
    (r.effect cache).1 = .error e ↔ (r cache).1 = .error e := by
  rw [effect_eq]
  cases (r cache).1 <;> simp [Except.map]

theorem effect_eq_ok_iff {r : Resolution α} {cache : FormatCache} :
    (r.effect cache).1 = .ok () ↔ ∃ a, (r cache).1 = .ok a := by
  rw [effect_eq]
  cases (r cache).1 <;> simp [Except.map]

theorem bind_assoc (r : Resolution α) (f : α → Resolution β) (g : β → Resolution γ) :
    (r.bind f).bind g = r.bind fun a => (f a).bind g := by
  funext cache
  cases h : r cache with
  | mk outcome after => cases outcome <;> simp [bind, h]

/-- What is done next does not look at the result. -/
theorem bind_effect (r : Resolution α) (next : Resolution β) :
    (r.bind fun _ => next) = r.effect.bind fun _ => next := by
  funext cache
  cases h : r cache with
  | mk outcome after =>
      cases outcome <;> simp [effect, map, bind, succeed, ofExcept, h]

theorem effect_bind (r : Resolution α) (f : α → Resolution β) :
    (r.bind f).effect = r.bind fun a => (f a).effect :=
  bind_assoc r f _

@[simp]
theorem effect_map (r : Resolution α) (f : α → β) : (r.map f).effect = r.effect :=
  effect_bind r _

theorem map_snd (r : Resolution α) (f : α → β) (cache : FormatCache) :
    (r.map f cache).2 = (r cache).2 := by
  rw [← effect_snd, effect_map, effect_snd]

theorem map_eq_error_iff {r : Resolution α} {f : α → β} {cache : FormatCache}
    {e : CompileError} : (r.map f cache).1 = .error e ↔ (r cache).1 = .error e := by
  rw [← effect_eq_error_iff, effect_map, effect_eq_error_iff]

theorem effect_traverse_cons (f : α → Resolution β) (a : α) (as : List α) :
    (traverse f (a :: as)).effect = (f a).effect.bind fun _ => (traverse f as).effect := by
  rw [traverse, effect_bind, ← bind_effect]
  simp only [effect_map]

theorem effect_traverse_append (f : α → Resolution β) (as others : List α) :
    (traverse f (as ++ others)).effect =
      (traverse f as).effect.bind fun _ => (traverse f others).effect := by
  induction as with
  | nil => rfl
  | cons a as ih =>
      rw [List.cons_append, effect_traverse_cons, effect_traverse_cons, ih, bind_assoc]

/-- Lists whose elements have the same effects one by one. -/
theorem effect_traverse_congr {f : α → Resolution β} {g : α → Resolution γ}
    (hg : ∀ a, (g a).Lawful)
    (hsame : ∀ a cache, cache.WellFormed → (f a).effect cache = (g a).effect cache)
    (as : List α) {cache : FormatCache} (h : cache.WellFormed) :
    (traverse f as).effect cache = (traverse g as).effect cache := by
  induction as generalizing cache with
  | nil => rfl
  | cons a as ih =>
      rw [effect_traverse_cons, effect_traverse_cons]
      simp only [bind, hsame a cache h]
      cases ha : (g a).effect cache with
      | mk outcome middle =>
          cases outcome with
          | error e => rfl
          | ok _ => exact ih ((map_lawful (hg a) _).grown_of_eq h ha).wellFormed

end Resolution

open Resolution

/-- The filter calls of a template in document order. -/
def Template.calls (t : Template) : List FilterCall :=
  t.interpolations.flatMap (·.filters)

theorem effect_ofSegment (segment : Segment) :
    (Part.ofSegment segment).effect =
      (Step.resolveAll ((segment.interpolation?.map (·.filters)).getD [])).effect := by
  cases segment with
  | literal text span => rfl
  | interpolation i => exact effect_map _ _

/-- Building a plan is resolving all calls of the template in order. -/
theorem Plan.effect_build (t : Template) :
    (build t).effect = (Step.resolveAll t.calls).effect := by
  obtain ⟨segments⟩ := t
  rw [build, effect_map]
  induction segments with
  | nil => rfl
  | cons segment segments ih =>
      have hcalls : Template.calls ⟨segment :: segments⟩ =
          (segment.interpolation?.map (·.filters)).getD [] ++ Template.calls ⟨segments⟩ := by
        cases segment <;> rfl
      rw [effect_traverse_cons, ih, effect_ofSegment, hcalls]
      exact (effect_traverse_append _ _ _).symm

end TextTemplate
