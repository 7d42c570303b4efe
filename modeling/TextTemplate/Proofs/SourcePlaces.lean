import TextTemplate.Proofs.Relocation
import TextTemplate.Proofs.SourceGrammar
import TextTemplate.Proofs.TokenShape

/-!
Sources at other places. What stands at one offset of a source is parsed as it is at any other one,
up to spans; and if it ends in front of the greatest offset, then its spans are only shifted.
-/
namespace TextTemplate
open Syntax

/-- The span moved by a number of bytes, with no greatest offset. -/
def Span.shift (bytes : Nat) (s : Span) : Span := ⟨s.start + bytes, s.stop + bytes⟩

/-- Whether two ways to move spans bring the spans of a text at two offsets to the same places. -/
def Agree (move move' : Span → Span) (offset offset' size : Nat) : Prop :=
  ∀ a b, a ≤ b → b ≤ size →
    move (.ofRange (offset + a) (offset + b)) = move' (.ofRange (offset' + a) (offset' + b))

theorem agree_const (span : Span) (offset offset' size : Nat) :
    Agree (fun _ => span) (fun _ => span) offset offset' size := fun _ _ _ _ => rfl

theorem agree_shift {bytes offset size : Nat} (h : offset + bytes + size ≤ Span.maxOffset) :
    Agree (Span.shift bytes) id offset (offset + bytes) size := by
  intro a b ha hb
  have hstart : min (offset + a) Span.maxOffset + bytes =
      min (offset + bytes + a) Span.maxOffset := by omega
  have hstop : min (offset + b) Span.maxOffset + bytes =
      min (offset + bytes + b) Span.maxOffset := by omega
  simp only [Span.shift, Span.ofRange, id, hstart, hstop]

theorem Agree.within {move move' : Span → Span} {offset offset' size : Nat}
    (h : Agree move move' offset offset' size) (before : Nat) {inner : Nat}
    (hsize : before + inner ≤ size) :
    Agree move move' (offset + before) (offset' + before) inner := by
  intro a b ha hb
  rw [Nat.add_assoc, Nat.add_assoc, Nat.add_assoc, Nat.add_assoc]
  exact h _ _ (by omega) (by omega)

/-- The span of a token is a range of the source, also behind the greatest offset. -/
theorem Span.offset_ofRange (base stop a b : Nat) :
    (ofRange a b).offset (ofRange base stop).start = ofRange (base + a) (base + b) := by
  simp only [ofRange, offset, mk.injEq]
  omega

namespace Token

theorem byteSize_first (c : Char) (cs : List Char) :
    Text.byteSize (first c cs).2.1 + Text.byteSize (first c cs).2.2 = Text.byteSize (c :: cs) := by
  rw [← Text.byteSize_append, first_append]

theorem lexFrom_agree {move move' : Span → Span} {base base' stop stop' offset : Nat}
    {cs : List Char} (h : Agree move move' base base' (offset + Text.byteSize cs)) :
    (lexFrom (Span.ofRange base stop).start offset cs).map (relocate move) =
      (lexFrom (Span.ofRange base' stop').start offset cs).map (relocate move') := by
  fun_induction lexFrom (Span.ofRange base stop).start offset cs with
  | case1 => simp [lexFrom]
  | case2 offset c cs hgap ih =>
      rw [lexFrom, if_pos hgap]
      exact ih (by rwa [Nat.add_assoc])
  | case3 offset c cs hgap token last ih =>
      have hlast : last = offset + Text.byteSize token.2.1 := rfl
      have hsize : Text.byteSize token.2.1 + Text.byteSize token.2.2 = Text.byteSize (c :: cs) :=
        byteSize_first c cs
      have hspan : move (.ofRange (base + offset) (base + last)) =
          move' (.ofRange (base' + offset) (base' + last)) :=
        h _ _ (by omega) (by omega)
      have hrest := ih (by rwa [hlast, Nat.add_assoc, hsize])
      rw [lexFrom, if_neg hgap, List.map_cons, List.map_cons, hrest]
      simp only [relocate, Span.offset_ofRange]
      rw [hspan]

end Token

/-- An interpolation at another offset. -/
theorem parseInterpolation_agree {move move' : Span → Span} {start start' : Nat}
    (body : List Char) (h : Agree move move' start start' (4 + Text.byteSize body)) :
    let size := Text.byteSize body
    relocateOutcome move (Interpolation.relocate move)
        (parseInterpolation (String.ofList body) (.ofRange (start + 2) (start + 2 + size))
          (.ofRange start (start + 4 + size))) =
      relocateOutcome move' (Interpolation.relocate move')
        (parseInterpolation (String.ofList body) (.ofRange (start' + 2) (start' + 2 + size))
          (.ofRange start' (start' + 4 + size))) := by
  intro size
  apply parseInterpolation_congr
  · simp only [Token.ofBody, String.toList_ofList]
    exact Token.lexFrom_agree (h.within 2 (by omega))
  · have hfinish := h (2 + size) (2 + size) (by omega) (by omega)
    rwa [← Nat.add_assoc, ← Nat.add_assoc] at hfinish
  · have hspan := h 0 (4 + size) (by omega) (by omega)
    rwa [← Nat.add_assoc, ← Nat.add_assoc] at hspan

theorem literalSegments_agree {move move' : Span → Span} {offset offset' : Nat}
    (text : List Char) (h : Agree move move' offset offset' (Text.byteSize text)) :
    (literalSegments offset text).map (Segment.relocate move) =
      (literalSegments offset' text).map (Segment.relocate move') := by
  cases text with
  | nil => rfl
  | cons c text =>
      have hspan := h 0 _ (Nat.zero_le _) (Nat.le_refl _)
      simpa [literalSegments, Segment.relocate] using hspan

/-- A source at another offset. -/
theorem parseFrom_agree {move move' : Span → Span} {offset offset' : Nat} {cs : List Char}
    (h : Agree move move' offset offset' (Text.byteSize cs)) :
    relocateOutcome move (List.map (Segment.relocate move)) (parseFrom offset cs) =
      relocateOutcome move' (List.map (Segment.relocate move')) (parseFrom offset' cs) := by
  induction cs using Fragment.source_induction generalizing offset offset' with
  | literal text hopen =>
      rw [parseFrom_literal hopen, parseFrom_literal hopen]
      exact congrArg Except.ok (literalSegments_agree text h)
  | unclosed before inside hopen hclose =>
      rw [byteSize_pair (by decide)] at h
      have hspan := h (Text.byteSize before) (Text.byteSize before + 2) (by omega) (by omega)
      rw [← Nat.add_assoc, ← Nat.add_assoc] at hspan
      rw [parseFrom_unclosed hopen hclose, parseFrom_unclosed hopen hclose]
      simp only [relocateOutcome, CompileError.relocate, hspan]
  | interpolation before body after hopen hclose ih =>
      rw [byteSize_pair (by decide), byteSize_pair (by decide)] at h
      have hbody := parseInterpolation_agree body (h.within (Text.byteSize before) (by omega))
      have hrest := ih (h.within (Text.byteSize before + (4 + Text.byteSize body)) (by omega))
      have hbefore := literalSegments_agree before (h.within 0 (by omega))
      simp only [Nat.add_zero, ← Nat.add_assoc] at hbefore hrest
      rw [parseFrom_interpolation hopen hclose, parseFrom_interpolation hopen hclose]
      obtain ⟨i, i', hi, hi', heq⟩ | ⟨e, e', he, he', heq⟩ := relocateOutcome_cases hbody
      · rw [hi, hi']
        obtain ⟨segments, segments', hs, hs', hsegments⟩ | ⟨e, e', he, he', heq⟩ :=
          relocateOutcome_cases hrest
        · simp only [hs, hs', Except.map, relocateOutcome, List.map_append, List.map_cons, hbefore,
            hsegments, Segment.relocate, heq]
        · simp only [he, he', Except.map, relocateOutcome, heq]
      · rw [he, he']
        exact congrArg Except.error heq

end TextTemplate
