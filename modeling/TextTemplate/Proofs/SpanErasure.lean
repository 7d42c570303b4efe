import TextTemplate.Proofs.PlanRelocation

/-!
Templates up to their spans. Where a template stands in its source decides neither its canonical
text nor, when its filters resolve, what they resolve to. Erasing spans is moving all of them to one
place.
-/
namespace TextTemplate

def Path.unplaced (p : Path) : Path := { p with span := .dummy }

def Argument.unplaced : Argument → Argument
  | .str value _ => .str value .dummy
  | .number value _ => .number value .dummy
  | .keyword value _ => .keyword value .dummy

def FilterCall.unplaced (f : FilterCall) : FilterCall :=
  ⟨f.filter, f.args.map (·.unplaced), .dummy⟩

def Interpolation.unplaced (i : Interpolation) : Interpolation :=
  ⟨i.path.unplaced, i.filters.map (·.unplaced), .dummy⟩

def Segment.unplaced : Segment → Segment
  | .literal text _ => .literal text .dummy
  | .interpolation i => .interpolation i.unplaced

/-- The template without its spans. -/
def Template.unplaced (t : Template) : Template :=
  ⟨t.segments.map (·.unplaced)⟩

theorem Argument.unplaced_eq (a : Argument) : a.unplaced = a.relocate fun _ => .dummy := by
  cases a <;> rfl

theorem FilterCall.unplaced_eq (f : FilterCall) : f.unplaced = f.relocate fun _ => .dummy := by
  simp only [unplaced, relocate, Argument.unplaced_eq]

theorem Interpolation.unplaced_eq (i : Interpolation) :
    i.unplaced = i.relocate fun _ => .dummy := by
  simp only [unplaced, relocate, FilterCall.unplaced_eq]
  rfl

theorem Segment.unplaced_eq (s : Segment) : s.unplaced = s.relocate fun _ => .dummy := by
  cases s with
  | literal text span => rfl
  | interpolation i => exact congrArg interpolation i.unplaced_eq

theorem Template.unplaced_eq (t : Template) : t.unplaced = t.relocate fun _ => .dummy := by
  simp only [unplaced, relocate, Segment.unplaced_eq]

@[simp]
theorem Template.text_unplaced (t : Template) : t.unplaced.text = t.text := by
  rw [unplaced_eq, text_relocate]

/-- A template has a plan if it has one without its spans, and it is the same plan. -/
theorem Plan.build_unplaced (t : Template) {cache after : FormatCache} {plan : Plan} :
    build t.unplaced cache = (.ok plan, after) ↔ build t cache = (.ok plan, after) := by
  rw [Template.unplaced_eq, build_relocate, Resolution.relocate, Prod.ext_iff, Prod.ext_iff,
    relocateOutcome_eq_ok_iff]

end TextTemplate
