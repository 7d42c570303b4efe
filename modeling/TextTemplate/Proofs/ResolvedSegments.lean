import TextTemplate.Proofs.PlanRelocation
import TextTemplate.Proofs.ResolutionLaws
import TextTemplate.Proofs.SourceGrammar

/-!
Segments and what they are resolved to. No cache has any say in the outcome, so the parts of a list
are those of its elements, one behind the other; and what a source compiles to are its segments and
their parts.
-/
namespace TextTemplate
open FormatCache Syntax

/-- In every cache a list is resolved as its elements are in an empty one. -/
theorem Resolution.traverse_outcome {α β : Type} {f : α → Resolution β} (hf : ∀ a, (f a).Lawful)
    (hs : ∀ a, (f a).Stable) (as : List α) {cache : FormatCache} (h : cache.WellFormed) :
    (traverse f as cache).1 = as.mapM fun a => (f a .empty).1 := by
  induction as generalizing cache with
  | nil => rfl
  | cons a as ih =>
      have houtcome := hs a cache .empty h wellFormed_empty
      rw [List.mapM_cons, ← houtcome]
      cases ha : f a cache with
      | mk outcome middle =>
          cases outcome with
          | error e => simp [traverse, Resolution.bind, ha, Bind.bind, Except.bind]
          | ok b =>
              have hmiddle := ((hf a).grown_of_eq h ha).wellFormed
              rw [← ih hmiddle]
              cases hrest : traverse f as middle with
              | mk outcome after =>
                  cases outcome <;>
                    simp [traverse, Resolution.bind, Resolution.map, succeed, ofExcept, ha, hrest,
                      Bind.bind, Except.bind, Pure.pure, Except.pure]

/-- The step of a call, or why there is none; no cache has any say in this. -/
def Step.fresh (call : FilterCall) : Except CompileError (Step Formatter) :=
  (resolve call .empty).1

theorem Step.resolveAll_outcome (calls : List FilterCall) {cache : FormatCache}
    (h : cache.WellFormed) : (resolveAll calls cache).1 = calls.mapM fresh :=
  Resolution.traverse_outcome resolve_lawful resolve_stable calls h

/-- The part of a segment, or why there is none; no cache has any say in this. -/
def Part.fresh (segment : Segment) : Except CompileError Part :=
  (ofSegment segment .empty).1

theorem Plan.build_outcome (t : Template) {cache : FormatCache} (h : cache.WellFormed) :
    (build t cache).1 = (t.segments.mapM Part.fresh).map mk := by
  have houtcome := Resolution.traverse_outcome Part.ofSegment_lawful Part.ofSegment_stable
    t.segments h
  simp only [build, Resolution.map, Resolution.bind]
  cases hparts : Resolution.traverse Part.ofSegment t.segments cache with
  | mk outcome after =>
      rw [hparts] at houtcome
      change outcome = t.segments.mapM Part.fresh at houtcome
      rw [← houtcome]
      cases outcome <;> rfl

theorem Part.fresh_interpolation_eq_ok_iff {i : Interpolation} {part : Part} :
    fresh (.interpolation i) = .ok part ↔ ∃ steps,
      i.filters.mapM Step.fresh = .ok steps ∧ part = .interpolation i.path.names steps := by
  rw [← Step.resolveAll_outcome i.filters wellFormed_empty, fresh, Resolution.outcome_eq_ok_iff]
  simp only [ofSegment, Resolution.map_eq_ok, Resolution.outcome_eq_ok_iff]
  constructor
  · intro h
    obtain ⟨after, steps, hsteps, rfl⟩ := h
    exact ⟨steps, ⟨after, hsteps⟩, rfl⟩
  · intro h
    obtain ⟨steps, ⟨after, hsteps⟩, rfl⟩ := h
    exact ⟨after, steps, hsteps, rfl⟩

theorem Part.fresh_relocate (move : Span → Span) (segments : List Segment) :
    (segments.map (Segment.relocate move)).mapM fresh =
      relocateOutcome move id (segments.mapM fresh) := by
  have houtcome (segments : List Segment) :=
    Resolution.traverse_outcome ofSegment_lawful ofSegment_stable segments wellFormed_empty
  have hmoved := Resolution.traverse_relocate move (ofSegment_relocate move) segments
  have hfst := congrArg (fun r => (r FormatCache.empty).1) hmoved
  simp only [Resolution.relocate, houtcome] at hfst
  exact hfst

/-- What a source compiles to consists of its segments and of their parts. -/
theorem CompiledTemplate.compile_outcome_eq_ok_iff {source : String} {cache : FormatCache}
    (h : cache.WellFormed) {t : CompiledTemplate} :
    (compile source cache).1 = .ok t ↔
      ∃ segments parts, parseFrom 0 source.toList = .ok segments ∧
        segments.mapM Part.fresh = .ok parts ∧ t = ⟨source, ⟨segments⟩, ⟨parts⟩⟩ := by
  have hparse : Template.parse source = (parseFrom 0 source.toList).map Template.mk := rfl
  rw [compile, hparse]
  cases parseFrom 0 source.toList with
  | error e => simp [Except.map, Resolution.fail, Resolution.ofExcept]
  | ok segments =>
      have hbuild := Plan.build_outcome ⟨segments⟩ h
      simp only [Except.map, Resolution.map, Resolution.bind]
      cases hplan : Plan.build ⟨segments⟩ cache with
      | mk outcome after =>
          rw [hplan] at hbuild
          change outcome = _ at hbuild
          cases hparts : segments.mapM Part.fresh with
          | error e => simp [hbuild, hparts, Except.map]
          | ok parts =>
              simp [hbuild, hparts, Except.map, Resolution.succeed, Resolution.ofExcept, eq_comm]

/-- The part that literal text is, which is left out if it is empty. -/
def literalParts (text : List Char) : List Part :=
  if text.isEmpty then [] else [.literal (String.ofList text)]

theorem fresh_literalSegments (offset : Nat) (text : List Char) :
    (literalSegments offset text).mapM Part.fresh = .ok (literalParts text) := by
  cases text <;> rfl

theorem chars_literalParts (context : Value) (text : List Char) :
    (literalParts text).flatMap (·.chars context) = text := by
  cases text with
  | nil => rfl
  | cons c text => simp [literalParts, Part.chars]

/-- The first names of the paths of segments. -/
def rootsOf (segments : List Segment) : List String :=
  (segments.filterMap Segment.interpolation?).map (·.path.root)

theorem rootsOf_append (segments others : List Segment) :
    rootsOf (segments ++ others) = rootsOf segments ++ rootsOf others := by
  simp [rootsOf]

theorem rootsOf_literalSegments (offset : Nat) (text : List Char) :
    rootsOf (literalSegments offset text) = [] := by
  cases text <;> rfl

theorem rootsOf_relocate (move : Span → Span) (segments : List Segment) :
    rootsOf (segments.map (Segment.relocate move)) = rootsOf segments := by
  have hmoved := Template.interpolations_relocate move ⟨segments⟩
  simp only [Template.interpolations, Template.relocate] at hmoved
  rw [rootsOf, hmoved, List.map_map]
  rfl

theorem CompiledTemplate.referencedProperties_eq (source : String) (segments : List Segment)
    (plan : Plan) :
    referencedProperties ⟨source, ⟨segments⟩, plan⟩ = (rootsOf segments).eraseDups := rfl

end TextTemplate
