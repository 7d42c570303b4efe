import TextTemplate.Proofs.SourceGrammar
import TextTemplate.Proofs.TokenShape

/-!
Slices of a source. A span marks a text if its bytes are in the source and both ends are between
characters. Where offsets reach to the end of a source, every interpolation marks its body between
two pairs of braces, and every token of the body marks its own text.
-/
namespace TextTemplate

namespace Text

/-- The front of a text that takes this many bytes, and what is behind it, unless the front would
end within a character or behind the text. -/
def splitBytes? : Nat → List Char → Option (List Char × List Char)
  | 0, cs => some ([], cs)
  | _ + 1, [] => none
  | n + 1, c :: cs =>
    if c.utf8Size ≤ n + 1 then
      (splitBytes? (n + 1 - c.utf8Size) cs).map fun (front, rest) => (c :: front, rest)
    else none

theorem splitBytes?_append (front rest : List Char) :
    splitBytes? (byteSize front) (front ++ rest) = some (front, rest) := by
  induction front with
  | nil => simp [byteSize, splitBytes?]
  | cons c front ih =>
      have hpos := c.utf8Size_pos
      obtain ⟨n, hn⟩ : ∃ n, byteSize (c :: front) = n + 1 :=
        Nat.exists_eq_succ_of_ne_zero (by simp only [byteSize]; omega)
      have hrest : n + 1 - c.utf8Size = byteSize front := by
        rw [← hn, byteSize]
        omega
      have hfits : c.utf8Size ≤ n + 1 := by
        rw [← hn, byteSize]
        omega
      rw [hn, List.cons_append, splitBytes?, if_pos hfits, hrest, ih]
      rfl

theorem eq_append_of_splitBytes? {n : Nat} {cs front rest : List Char}
    (h : splitBytes? n cs = some (front, rest)) : cs = front ++ rest ∧ byteSize front = n := by
  fun_induction splitBytes? n cs generalizing front with
  | case1 cs =>
      cases h
      exact ⟨rfl, rfl⟩
  | case2 n => cases h
  | case3 n c cs hfits ih =>
      obtain ⟨⟨front, rest⟩, hsplit, heq⟩ := Option.map_eq_some_iff.1 h
      cases heq
      obtain ⟨rfl, hsize⟩ := ih hsplit
      refine ⟨rfl, ?_⟩
      rw [byteSize, hsize]
      omega
  | case4 n c cs hfits => cases h

end Text

namespace Span
open Text

/-- The text that a span marks in a source, if its bytes are there and both ends are between
characters. -/
def slice? (s : Span) (source : String) : Option String :=
  if s.start ≤ s.stop then
    (splitBytes? s.start source.toList).bind fun (_, rest) =>
      (splitBytes? s.length rest).map fun (text, _) => String.ofList text
  else none

theorem slice?_eq_some_iff {s : Span} {source text : String} :
    s.slice? source = some text ↔ ∃ before after, source.toList = before ++ text.toList ++ after ∧
      s = ⟨byteSize before, byteSize before + byteSize text.toList⟩ := by
  obtain ⟨start, stop⟩ := s
  constructor
  · intro h
    rw [slice?] at h
    split at h
    · rename_i hle
      obtain ⟨⟨before, behind⟩, hbefore, h⟩ := Option.bind_eq_some_iff.1 h
      obtain ⟨⟨inside, after⟩, hinside, rfl⟩ := Option.map_eq_some_iff.1 h
      obtain ⟨hsource, hstart⟩ := eq_append_of_splitBytes? hbefore
      obtain ⟨rfl, hlength⟩ := eq_append_of_splitBytes? hinside
      refine ⟨before, after, by simp [hsource], ?_⟩
      rw [length] at hlength
      simp only [String.toList_ofList, mk.injEq] at hstart hlength hle ⊢
      omega
    · cases h
  · intro h
    obtain ⟨before, after, hsource, heq⟩ := h
    cases heq
    rw [slice?, if_pos (Nat.le_add_right _ _), length, hsource, List.append_assoc,
      splitBytes?_append]
    simp only [Option.bind_some, Nat.add_sub_cancel_left, splitBytes?_append, Option.map_some,
      String.ofList_toList]

theorem bounds_of_slice? {s : Span} {source text : String} (h : s.slice? source = some text) :
    s.start ≤ s.stop ∧ s.stop ≤ source.utf8ByteSize := by
  obtain ⟨before, after, hsource, rfl⟩ := slice?_eq_some_iff.1 h
  refine ⟨Nat.le_add_right _ _, ?_⟩
  rw [← byteSize_toList source, hsource]
  simp only [byteSize_append]
  omega

/-- The span marks this text of the source, and it is inside another span. -/
structure MarksIn (s outer : Span) (source text : String) : Prop where
  slice : s.slice? source = some text
  start_le : outer.start ≤ s.start
  le_stop : s.stop ≤ outer.stop

theorem ofRange_of_le {a b : Nat} (hab : a ≤ b) (h : b ≤ maxOffset) : ofRange a b = ⟨a, b⟩ := by
  simp only [ofRange, mk.injEq]
  omega

theorem offset_ofRange_of_le {base a b : Nat} (hab : a ≤ b) (h : base + b ≤ maxOffset) :
    (ofRange a b).offset base = ⟨base + a, base + b⟩ := by
  simp only [ofRange, offset, mk.injEq]
  omega

end Span

open Text

/-- Every token of what stands at an offset of a body is at its place. -/
theorem Token.exists_place_of_mem_lexFrom {base offset : Nat} {cs : List Char} {t : Token}
    (h : t ∈ lexFrom base offset cs) :
    ∃ before after, cs = before ++ t.text.toList ++ after ∧
      t.span = (Span.ofRange (offset + byteSize before)
        (offset + byteSize before + byteSize t.text.toList)).offset base := by
  fun_induction lexFrom base offset cs with
  | case1 => cases h
  | case2 offset c cs hgap ih =>
      obtain ⟨before, after, hcs, hspan⟩ := ih h
      refine ⟨c :: before, after, by simp [hcs], ?_⟩
      rw [byteSize, ← Nat.add_assoc]
      exact hspan
  | case3 offset c cs hgap token stop ih =>
      have happend : token.2.1 ++ token.2.2 = c :: cs := first_append c cs
      cases List.mem_cons.1 h with
      | inl heq =>
          refine ⟨[], token.2.2, ?_, ?_⟩
          · rw [heq, String.toList_ofList, List.nil_append, happend]
          · rw [heq, String.toList_ofList]
            rfl
      | inr h =>
          obtain ⟨before, after, hrest, hspan⟩ := ih h
          refine ⟨token.2.1 ++ before, after, ?_, ?_⟩
          · rw [← happend, hrest]
            simp
          · rw [byteSize_append, ← Nat.add_assoc]
            exact hspan

namespace Fragment
open Syntax

/-- The interpolation stands in the source where its spans say. -/
structure StandsIn (source body : String) (bodySpan span : Span) (before after : List Char) :
    Prop where
  chars : source.toList =
    before ++ '\x7b' :: '\x7b' :: (body.toList ++ '\x7d' :: '\x7d' :: after)
  bodySpan_eq : bodySpan =
    ⟨byteSize before + 2, byteSize before + 2 + byteSize body.toList⟩
  span_eq : span = ⟨byteSize before, byteSize before + 4 + byteSize body.toList⟩

theorem eq_of_mem_literals {offset : Nat} {text : List Char} {f : Fragment}
    (h : f ∈ literals offset text) : f = literalAt offset text := by
  rw [literals] at h
  split at h
  · cases h
  · exact List.mem_singleton.1 h

theorem exists_place_of_mem_scanFrom {offset : Nat} {cs : List Char} {body : String}
    {bodySpan span : Span} (h : interpolation body bodySpan span ∈ (scanFrom offset cs).fragments) :
    ∃ before after, cs = before ++ '\x7b' :: '\x7b' :: (body.toList ++ '\x7d' :: '\x7d' :: after) ∧
      interpolation body bodySpan span =
        interpolationAt (offset + byteSize before) body.toList := by
  induction cs using source_induction generalizing offset with
  | literal text hopen =>
      rw [scanFrom_literal hopen] at h
      cases eq_of_mem_literals h
  | unclosed before inside hopen hclose =>
      rw [scanFrom_unclosed hopen hclose] at h
      cases h
  | interpolation before inside after hopen hclose ih =>
      rw [scanFrom_interpolation hopen hclose, List.mem_append, List.mem_cons] at h
      obtain h | h | h := h
      · cases eq_of_mem_literals h
      · have hbody := (Fragment.interpolation.inj h).1
        rw [hbody, String.toList_ofList, ← hbody, h]
        exact ⟨before, after, rfl, rfl⟩
      · obtain ⟨front, rest, rfl, heq⟩ := ih h
        refine ⟨before ++ '\x7b' :: '\x7b' :: (inside ++ '\x7d' :: '\x7d' :: front), rest, by simp,
          ?_⟩
        rw [heq, byteSize_pair (by decide), byteSize_pair (by decide)]
        congr 1
        omega

/-- Offsets reach to the end of a source that is shorter than 4 GiB. -/
theorem stop_le_maxOffset {source : String} (hsize : source.utf8ByteSize < 2 ^ 32)
    {before body after : List Char}
    (h : source.toList = before ++ '\x7b' :: '\x7b' :: (body ++ '\x7d' :: '\x7d' :: after)) :
    byteSize before + 4 + byteSize body ≤ Span.maxOffset := by
  have hlength := byteSize_toList source
  rw [h, byteSize_pair (by decide), byteSize_pair (by decide)] at hlength
  simp only [Span.maxOffset, UInt32.size]
  omega

theorem exists_standsIn {source body : String} {bodySpan span : Span}
    (hsize : source.utf8ByteSize < 2 ^ 32)
    (h : interpolation body bodySpan span ∈ (Scan.ofSource source).fragments) :
    ∃ before after, StandsIn source body bodySpan span before after := by
  obtain ⟨before, after, hchars, heq⟩ := exists_place_of_mem_scanFrom h
  have hstop := stop_le_maxOffset hsize hchars
  obtain ⟨-, hbodySpan, hspan⟩ := Fragment.interpolation.inj heq
  rw [Nat.zero_add] at hbodySpan hspan
  refine ⟨before, after, hchars, ?_, ?_⟩
  · rw [hbodySpan, Span.ofRange_of_le (by omega) (by omega)]
  · rw [hspan, Span.ofRange_of_le (by omega) hstop]

theorem byteSize_braces (body : String) :
    byteSize ("\x7b\x7b" ++ body ++ "\x7d\x7d").toList = 4 + byteSize body.toList := by
  have hbraces : ("\x7b\x7b" ++ body ++ "\x7d\x7d").toList =
      '\x7b' :: '\x7b' :: (body.toList ++ ['\x7d', '\x7d']) := by simp
  have hopen : '\x7b'.utf8Size = 1 := by decide
  have hclose : '\x7d'.utf8Size = 1 := by decide
  rw [hbraces]
  simp only [byteSize, byteSize_append]
  omega

namespace StandsIn

variable {source body : String} {bodySpan span : Span} {before after : List Char}

theorem slice_span (h : StandsIn source body bodySpan span before after) :
    span.slice? source = some ("\x7b\x7b" ++ body ++ "\x7d\x7d") := by
  refine Span.slice?_eq_some_iff.2 ⟨before, after, by simp [h.chars], ?_⟩
  rw [h.span_eq, byteSize_braces, Nat.add_assoc]

theorem slice_closing (h : StandsIn source body bodySpan span before after) :
    (Span.mk bodySpan.stop span.stop).slice? source = some "\x7d\x7d" := by
  refine Span.slice?_eq_some_iff.2
    ⟨before ++ '\x7b' :: '\x7b' :: body.toList, after, by simp [h.chars], ?_⟩
  have hclosing : byteSize "\x7d\x7d".toList = 2 := by decide
  rw [byteSize_pair (by decide), h.bodySpan_eq, h.span_eq, hclosing]
  simp only [Span.mk.injEq, true_and]
  omega

/-- Every piece of the body is marked where it stands. -/
theorem marksIn (h : StandsIn source body bodySpan span before after) {front text rest : List Char}
    (hbody : body.toList = front ++ text ++ rest) :
    Span.MarksIn ⟨bodySpan.start + byteSize front, bodySpan.start + byteSize front + byteSize text⟩
      span source (String.ofList text) where
  slice := by
    refine Span.slice?_eq_some_iff.2 ⟨before ++ '\x7b' :: '\x7b' :: front,
      rest ++ '\x7d' :: '\x7d' :: after, ?_, ?_⟩
    · simp [h.chars, hbody]
    · rw [byteSize_pair (by decide), h.bodySpan_eq, String.toList_ofList]
  start_le := by
    rw [h.span_eq, h.bodySpan_eq]
    simp only
    omega
  le_stop := by
    rw [h.span_eq, h.bodySpan_eq, hbody]
    simp only [byteSize_append]
    omega

theorem marksIn_token (h : StandsIn source body bodySpan span before after)
    (hsize : source.utf8ByteSize < 2 ^ 32) {t : Token}
    (ht : t ∈ Token.ofBody body bodySpan.start) : t.span.MarksIn span source t.text := by
  obtain ⟨front, rest, hbody, hspan⟩ := Token.exists_place_of_mem_lexFrom ht
  have hmarks := h.marksIn hbody
  have hstop := stop_le_maxOffset hsize h.chars
  have hbase : bodySpan.start = byteSize before + 2 := by rw [h.bodySpan_eq]
  have hinside : byteSize front + byteSize t.text.toList ≤ byteSize body.toList := by
    rw [hbody]
    simp only [byteSize_append]
    omega
  rw [Nat.zero_add, Span.offset_ofRange_of_le (by omega) (by omega), ← Nat.add_assoc] at hspan
  rwa [hspan, ← String.ofList_toList (s := t.text), String.toList_ofList]

theorem marksIn_finish (h : StandsIn source body bodySpan span before after) :
    (Span.point bodySpan.stop).MarksIn span source "" := by
  have hbody : body.toList = body.toList ++ [] ++ [] := by simp
  have hmarks := h.marksIn hbody
  have hstop : bodySpan.stop = bodySpan.start + byteSize body.toList := by rw [h.bodySpan_eq]
  rw [Span.point, hstop]
  exact hmarks

end StandsIn

end Fragment

end TextTemplate
