import TextTemplate.CompiledTemplate
import TextTemplate.Proofs.Relocation

/-!
Plans do not depend on places. Resolving a template whose spans were moved gives the same plan and
the same cache, or the same error at its new place; and the canonical text and the names that a
template reads are the same as well.
-/
namespace TextTemplate

variable (move : Span → Span)

@[simp]
theorem Argument.chars_relocate (a : Argument) : (a.relocate move).chars = a.chars := by
  cases a <;> rfl

@[simp]
theorem Argument.text_relocate (a : Argument) : (a.relocate move).text = a.text :=
  congrArg String.ofList (a.chars_relocate move)

@[simp]
theorem Argument.text?_relocate (a : Argument) : (a.relocate move).text? = a.text? := by
  cases a <;> rfl

theorem FilterCall.argumentChars_relocate (separator : Char) (args : List Argument) :
    argumentChars separator (args.map (Argument.relocate move)) =
      argumentChars separator args := by
  induction args generalizing separator with
  | nil => rfl
  | cons a args ih => simp only [List.map_cons, argumentChars, Argument.chars_relocate, ih]

@[simp]
theorem FilterCall.chars_relocate (f : FilterCall) : (f.relocate move).chars = f.chars := by
  simp only [chars, relocate, argumentChars_relocate]

@[simp]
theorem Interpolation.chars_relocate (i : Interpolation) : (i.relocate move).chars = i.chars := by
  simp only [chars, relocate, List.flatMap_map, FilterCall.chars_relocate]
  rfl

@[simp]
theorem Segment.chars_relocate (s : Segment) : (s.relocate move).chars = s.chars := by
  cases s with
  | literal text span => rfl
  | interpolation i => exact i.chars_relocate move

@[simp]
theorem Template.text_relocate (t : Template) : (t.relocate move).text = t.text := by
  simp only [text, chars, relocate, List.flatMap_map, Segment.chars_relocate]

theorem Template.interpolations_relocate (t : Template) :
    (t.relocate move).interpolations = t.interpolations.map (Interpolation.relocate move) := by
  simp only [interpolations, relocate, List.filterMap_map, List.map_filterMap]
  congr 1
  funext segment
  cases segment <;> rfl

@[simp]
theorem Template.rootNames_relocate (t : Template) : (t.relocate move).rootNames = t.rootNames := by
  simp only [rootNames, interpolations_relocate, List.map_map]
  rfl

theorem relocateOutcome_bind {α β : Type} (outcome : Except CompileError α)
    (f : α → Except CompileError β) :
    relocateOutcome move id (outcome >>= f) =
      relocateOutcome move id outcome >>= fun a => relocateOutcome move id (f a) := by
  cases outcome <;> rfl

namespace Operation

theorem position_relocate (filter : Filter) (arg : Argument) :
    position filter (arg.relocate move) = relocateOutcome move id (position filter arg) := by
  have htext := arg.text_relocate move
  cases arg with
  | str value span | keyword value span =>
      simp only [Argument.relocate] at htext ⊢
      simp only [position, htext]
      rfl
  | number x span =>
      simp only [Argument.relocate] at htext ⊢
      cases x with
      | nan | infinite _ =>
          simp only [position, htext]
          rfl
      | finite negative m =>
          simp only [position, htext]
          cases m.isWhole with
          | false => rfl
          | true =>
              by_cases h : maxArgument < m.floor
              · simp only [h, if_true]
                rfl
              · simp only [h, if_false]
                rfl

theorem count_relocate (filter : Filter) (arg : Argument) :
    count filter (arg.relocate move) = relocateOutcome move id (count filter arg) := by
  rw [count, count, position_relocate, Argument.text_relocate]
  cases position filter arg with
  | error e => rfl
  | ok n =>
      simp only [relocateOutcome, id]
      by_cases h : n < 0
      · rw [if_pos h, if_pos h]
        cases arg <;> rfl
      · rw [if_neg h, if_neg h]

theorem direction_relocate (filter : Filter) (arg : Argument) :
    direction filter (arg.relocate move) = relocateOutcome move id (direction filter arg) := by
  rw [direction, direction, Argument.text?_relocate, Argument.text_relocate]
  cases arg.text?.bind Side.ofKeyword? with
  | some side => rfl
  | none => cases arg <;> rfl

theorem ofCall_relocate (call : FilterCall) :
    ofCall (call.relocate move) = relocateOutcome move id (ofCall call) := by
  obtain ⟨filter, args, span⟩ := call
  rcases args with _ | ⟨a, _ | ⟨b, _ | ⟨c, rest⟩⟩⟩ <;> cases filter <;>
    simp only [FilterCall.relocate, List.map_nil, List.map_cons, ofCall, relocateOutcome_bind,
      count_relocate, position_relocate, direction_relocate, List.length_cons, List.length_map] <;>
    rfl

end Operation

namespace Resolution

variable {α β : Type}

/-- The resolution with its error at a new place. -/
def relocate (r : Resolution α) : Resolution α := fun cache =>
  (relocateOutcome move id (r cache).1, (r cache).2)

theorem ofExcept_relocate (outcome : Except CompileError α) :
    (ofExcept outcome).relocate move = ofExcept (relocateOutcome move id outcome) := rfl

theorem bind_relocate (r : Resolution α) (f : α → Resolution β) :
    (r.bind f).relocate move = (r.relocate move).bind fun a => (f a).relocate move := by
  funext cache
  simp only [relocate, bind]
  cases r cache with
  | mk outcome after => cases outcome <;> rfl

theorem map_relocate (r : Resolution α) (f : α → β) :
    (r.map f).relocate move = (r.relocate move).map f :=
  bind_relocate move r _

theorem formatter_relocate (family : Family) (pattern : String) (span : Span) :
    (formatter family pattern span).relocate move = formatter family pattern (move span) := by
  funext cache
  simp only [relocate, formatter]
  cases cache.getOrInsert family pattern with
  | mk outcome after => cases outcome <;> rfl

theorem traverse_relocate {f : α → Resolution β} {g : α → α}
    (h : ∀ a, f (g a) = (f a).relocate move) (as : List α) :
    traverse f (as.map g) = (traverse f as).relocate move := by
  induction as with
  | nil => rfl
  | cons a as ih =>
      simp only [List.map_cons, traverse, bind_relocate, map_relocate, h, ih]

end Resolution

open Resolution

theorem Step.resolve_relocate (call : FilterCall) :
    resolve (call.relocate move) = (resolve call).relocate move := by
  have hoperation : Resolution.ofExcept ((Operation.ofCall (call.relocate move)).map operation) =
      (Resolution.ofExcept ((Operation.ofCall call).map
        (operation : Operation → Step Formatter))).relocate move := by
    rw [Operation.ofCall_relocate, ofExcept_relocate]
    cases Operation.ofCall call <;> rfl
  obtain ⟨filter, args, span⟩ := call
  cases hfamily : filter.family? with
  | none =>
      simp only [resolve, FilterCall.relocate, hfamily]
      exact hoperation
  | some family =>
      rcases args with _ | ⟨pattern, _ | ⟨other, rest⟩⟩
      · simp only [resolve, FilterCall.relocate, hfamily, List.map_nil]
        exact hoperation
      · have htext := pattern.text_relocate move
        simp only [resolve, FilterCall.relocate, hfamily, List.map_cons, List.map_nil]
        cases pattern with
        | str text span =>
            simp only [Argument.relocate, resolveFormat, map_relocate, formatter_relocate]
        | number x span | keyword word span =>
            simp only [Argument.relocate] at htext ⊢
            simp only [resolveFormat, htext]
            rfl
      · simp only [resolve, FilterCall.relocate, hfamily, List.map_cons]
        exact hoperation

theorem Part.ofSegment_relocate (segment : Segment) :
    ofSegment (segment.relocate move) = (ofSegment segment).relocate move := by
  cases segment with
  | literal text span => rfl
  | interpolation i =>
      have hsteps : Step.resolveAll (i.relocate move).filters =
          (Step.resolveAll i.filters).relocate move :=
        traverse_relocate move (Step.resolve_relocate move) i.filters
      rw [Segment.relocate, ofSegment, ofSegment, hsteps, map_relocate]
      rfl

/-- A template at another place has the same plan, or the same error at its new place, and does the
same to the cache. -/
theorem Plan.build_relocate (t : Template) :
    build (t.relocate move) = (build t).relocate move := by
  rw [build, build, map_relocate]
  exact congrArg (Resolution.map mk)
    (traverse_relocate move (Part.ofSegment_relocate move) t.segments)

end TextTemplate
