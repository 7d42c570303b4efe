import TextTemplate.Proofs.ErrorPlaces
import TextTemplate.Report

/-!
What reports mark. Spans count bytes, marks count characters, and the mark of an error has the
numbers of its span. So it is moved and stretched by every byte that is not the first one of its
character, and it covers the text of the error exactly if all characters up to the end of this text
are ASCII.
-/
namespace TextTemplate
open FormatCache

namespace Text

def IsAscii (cs : List Char) : Prop :=
  ∀ c ∈ cs, c.toNat < 128

/-- How many bytes are not the first one of their character. -/
def surplus (cs : List Char) : Nat := byteSize cs - cs.length

theorem utf8Size_eq_one_iff {c : Char} : c.utf8Size = 1 ↔ c.toNat < 128 := by
  rw [Char.utf8Size_eq_one_iff, UInt32.le_iff_toNat_le]
  exact Nat.lt_succ_iff.symm

theorem length_add_surplus (cs : List Char) : cs.length + surplus cs = byteSize cs := by
  have hle : cs.length ≤ byteSize cs := by
    induction cs with
    | nil => exact Nat.le_refl 0
    | cons c cs ih =>
        have hpos := c.utf8Size_pos
        rw [List.length_cons, byteSize]
        omega
  rw [surplus]
  omega

theorem surplus_cons (c : Char) (cs : List Char) :
    surplus (c :: cs) = c.utf8Size - 1 + surplus cs := by
  have hpos := c.utf8Size_pos
  have hwhole := length_add_surplus (c :: cs)
  have hrest := length_add_surplus cs
  rw [List.length_cons, byteSize] at hwhole
  omega

theorem surplus_append (cs others : List Char) :
    surplus (cs ++ others) = surplus cs + surplus others := by
  induction cs with
  | nil => rw [List.nil_append, show surplus [] = 0 from rfl, Nat.zero_add]
  | cons c cs ih => rw [List.cons_append, surplus_cons, surplus_cons, ih, Nat.add_assoc]

theorem surplus_eq_zero_iff {cs : List Char} : surplus cs = 0 ↔ IsAscii cs := by
  induction cs with
  | nil => simp [IsAscii, surplus, byteSize]
  | cons c cs ih =>
      have hpos := c.utf8Size_pos
      have hone : c.utf8Size - 1 = 0 ↔ c.utf8Size = 1 := by omega
      rw [surplus_cons, Nat.add_eq_zero_iff, ih, hone, utf8Size_eq_one_iff, IsAscii, IsAscii,
        List.forall_mem_cons]

end Text

open Text

namespace Mark

/-- The text that a mark selects, if there are as many characters in the source. -/
def text? (m : Mark) (source : String) : Option String :=
  if m.start ≤ m.stop ∧ m.stop ≤ source.toList.length then
    some (String.ofList ((source.toList.drop m.start).take (m.stop - m.start)))
  else none

theorem text?_eq_some_iff {m : Mark} {source text : String} :
    m.text? source = some text ↔ ∃ before after, source.toList = before ++ text.toList ++ after ∧
      m.start = before.length ∧ m.stop = before.length + text.toList.length := by
  rw [text?]
  constructor
  · intro h
    split at h
    · rename_i hbounds
      cases h
      refine ⟨source.toList.take m.start, source.toList.drop m.stop, ?_, ?_, ?_⟩
      · have hstop : m.stop = m.start + (m.stop - m.start) := by omega
        rw [String.toList_ofList, hstop, ← List.drop_drop, Nat.add_sub_cancel_left,
          List.append_assoc, List.take_append_drop, List.take_append_drop]
      · rw [List.length_take]
        omega
      · rw [String.toList_ofList, List.length_take, List.length_take, List.length_drop]
        omega
    · cases h
  · intro h
    obtain ⟨before, after, hsource, hstart, hstop⟩ := h
    have hlength := congrArg List.length hsource
    simp only [List.length_append] at hlength
    rw [if_pos (by omega), hsource, hstart, hstop, Nat.add_sub_cancel_left, List.append_assoc,
      List.drop_left, List.take_left, String.ofList_toList]

end Mark

namespace CompileError

section
variable {e : CompileError} {source text : String} {before after : List Char}

/-- Where an error marks a text in bytes, its report has these numbers as its mark. -/
theorem mark_eq (hsource : source.toList = before ++ text.toList ++ after)
    (hspan : e.span = ⟨byteSize before, byteSize before + byteSize text.toList⟩) :
    (e.mark source).start = before.length + surplus before ∧
      (e.mark source).stop =
        before.length + surplus before + (text.toList.length + surplus text.toList) := by
  have hsize := byteSize_toList source
  rw [hsource, byteSize_append, byteSize_append] at hsize
  rw [length_add_surplus, length_add_surplus, mark, hspan]
  simp only
  omega

variable (hstart : (e.mark source).start = before.length + surplus before)
  (hstop : (e.mark source).stop =
    before.length + surplus before + (text.toList.length + surplus text.toList))
include hstart hstop

theorem mark_covers_iff :
    ((e.mark source).start = before.length ∧
      (e.mark source).stop = before.length + text.toList.length) ↔
        IsAscii (before ++ text.toList) := by
  rw [← surplus_eq_zero_iff, surplus_append, hstart, hstop]
  omega

/-- A mark that is moved selects the same text only where this stands once more. -/
theorem text?_mark_iff (hsource : source.toList = before ++ text.toList ++ after) :
    (e.mark source).text? source = some text ↔ IsAscii text.toList ∧
      ∃ skipped behind, text.toList ++ after = skipped ++ text.toList ++ behind ∧
        skipped.length = surplus before := by
  rw [Mark.text?_eq_some_iff, ← surplus_eq_zero_iff, hstart, hstop]
  constructor
  · intro h
    obtain ⟨front, behind, hsame, hfront, hlength⟩ := h
    refine ⟨by omega, ?_⟩
    rw [hsource, List.append_assoc, List.append_assoc] at hsame
    -- the mark starts at the text or further to the right, never in front of it
    have hprefix : before <+: front := List.prefix_of_prefix_length_le
      (List.prefix_append before _) (hsame ▸ List.prefix_append front _) (by omega)
    obtain ⟨skipped, rfl⟩ := hprefix
    rw [List.append_assoc, List.append_cancel_left_eq, ← List.append_assoc] at hsame
    rw [List.length_append] at hfront
    exact ⟨skipped, behind, hsame, by omega⟩
  · intro h
    obtain ⟨hascii, skipped, behind, hsame, hskipped⟩ := h
    refine ⟨before ++ skipped, behind, ?_, ?_, ?_⟩
    · rw [hsource, List.append_assoc, hsame, ← List.append_assoc, ← List.append_assoc]
    · rw [List.length_append, hskipped]
    · rw [List.length_append, hskipped, hascii, Nat.add_zero]

end

end CompileError

namespace CompiledTemplate

theorem exists_slice_of_error {source : String} (hsize : source.utf8ByteSize < 2 ^ 32)
    {cache : FormatCache} (h : Reachable cache) {e : CompileError}
    (he : (compile source cache).1 = .error e) : ∃ text, e.span.slice? source = some text := by
  obtain hscan | ⟨body, bodySpan, span, failing, hmem, hfault⟩ := compile_error_cases h he
  · obtain ⟨-, before, inside, -, -, -, hslice⟩ := Scan.slice?_fault hsize hscan
    exact ⟨_, hslice⟩
  · obtain ⟨before, after, hplace⟩ := Fragment.exists_standsIn hsize hmem
    obtain ⟨text, hinside, -⟩ := hfault.marks hplace hsize
    exact ⟨text, hinside.slice⟩

/-- The mark in the report of an error starts too far to the right by the surplus of what is in
front of the text of the error, and is too long by the surplus of this text. It covers the text
where it stands exactly if all characters up to its end are ASCII, and selects it then; and it
selects an equal text exactly if the text itself is ASCII and stands once more where the mark is
moved to. -/
theorem compile_error_selects {source : String} (hsize : source.utf8ByteSize < 2 ^ 32)
    {cache : FormatCache} (h : Reachable cache) {e : CompileError}
    (he : (compile source cache).1 = .error e) :
    ∃ before text after, source.toList = before ++ text.toList ++ after ∧
      e.span.slice? source = some text ∧
      (e.mark source).start = before.length + surplus before ∧
      (e.mark source).stop =
        before.length + surplus before + (text.toList.length + surplus text.toList) ∧
      (((e.mark source).start = before.length ∧
        (e.mark source).stop = before.length + text.toList.length) ↔
          IsAscii (before ++ text.toList)) ∧
      (IsAscii (before ++ text.toList) →
        (e.mark source).text? source = e.span.slice? source) ∧
      ((e.mark source).text? source = e.span.slice? source ↔ IsAscii text.toList ∧
        ∃ skipped behind, text.toList ++ after = skipped ++ text.toList ++ behind ∧
          skipped.length = surplus before) := by
  obtain ⟨text, hslice⟩ := exists_slice_of_error hsize h he
  obtain ⟨before, after, hsource, hspan⟩ := Span.slice?_eq_some_iff.1 hslice
  obtain ⟨hstart, hstop⟩ := CompileError.mark_eq hsource hspan
  have hcovers := CompileError.mark_covers_iff hstart hstop
  refine ⟨before, text, after, hsource, hslice, hstart, hstop, hcovers, fun hascii => ?_, ?_⟩
  · obtain ⟨hbegin, hend⟩ := hcovers.2 hascii
    rw [hslice]
    exact Mark.text?_eq_some_iff.2 ⟨before, after, hsource, hbegin, hend⟩
  · rw [hslice]
    exact CompileError.text?_mark_iff hstart hstop hsource

/-- A character of two bytes behind the text of the error does not move the mark. -/
theorem compile_error_selects_name :
    let source := "a\n\x7b\x7bx|fake\x7d\x7dé"
    let e : CompileError := ⟨.unknownFilter "fake", ⟨6, 10⟩⟩
    source.utf8ByteSize < 2 ^ 32 ∧ (compile source .empty).1 = .error e ∧
      e.span.slice? source = some "fake" ∧ (e.mark source).text? source = some "fake" := by
  intro source e
  have hsize : source.utf8ByteSize < 2 ^ 32 := by decide +kernel
  have herror : (compile source .empty).1 = .error e := by decide +kernel
  have hfake : e.span.slice? source = some "fake" := by decide +kernel
  obtain ⟨before, text, after, hsource, -, -, hstop, -, hselects, -⟩ :=
    compile_error_selects hsize .empty herror
  have hfront : before ++ text.toList <+: source.toList := hsource ▸ List.prefix_append _ after
  have hlength : (before ++ text.toList).length ≤ 10 := by
    have hnumber : (e.mark source).stop = 10 := by decide +kernel
    rw [List.length_append]
    omega
  have hascii : IsAscii (before ++ text.toList) := by
    have hten : IsAscii (source.toList.take 10) := surplus_eq_zero_iff.1 (by decide +kernel)
    intro c hc
    rw [List.prefix_iff_eq_take.1 hfront] at hc
    exact hten c (List.take_subset_take_left source.toList hlength hc)
  exact ⟨hsize, herror, hfake, (hselects hascii).trans hfake⟩

/-- A character of two bytes in front of it moves the mark by one place. -/
theorem compile_error_mark_moved :
    let source := "é\x7b\x7ba|fake\x7d\x7d"
    let e : CompileError := ⟨.unknownFilter "fake", ⟨6, 10⟩⟩
    source.utf8ByteSize < 2 ^ 32 ∧ (compile source .empty).1 = .error e ∧
      e.span.slice? source = some "fake" ∧ (e.mark source).text? source = some "ake\x7d" := by
  decide +kernel

end CompiledTemplate

end TextTemplate
