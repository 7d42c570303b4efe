import Mathlib.Data.List.Forall2
import TextTemplate.Proofs.SourceSlices
import TextTemplate.Proofs.TokenGaps

/-!
The tokens of a body as a partition of it. Tokens stand in order and apart from each other, each of
them marks its own text, and what is outside of all of them is gaps; the kind of a token tells its
characters, and a bare one is as long as it can be. Lexemes with gaps between them, and at least
one gap character between two bare ones, are lexed again as they were.
-/
namespace TextTemplate
open Token Text

/-- The byte range of a text that stands behind another one. -/
def byteRange (before text : List Char) : Nat × Nat :=
  (byteSize before, byteSize before + byteSize text)

namespace Token

/-- What its kind says of a token of a body, and of what stands in front of it and behind it. -/
def Formed (t : Token) (before after : List Char) : Prop :=
  match t.kind with
  | .bar => t.text = "|"
  | .colon => t.text = ":"
  | .comma => t.text = ","
  | .quoted => ∃ quote value, isQuote quote = true ∧ quote ∉ value ∧
      t.text.toList = quote :: value ++ [quote] ∧ t.unquoted = String.ofList value
  | .bare => t.text.toList ≠ [] ∧ (∀ c ∈ t.text.toList, isBare c = true) ∧
      (∀ c ∈ before.getLast?, isBare c = false) ∧ ∀ c ∈ after.head?, isBare c = false
  | .openQuote => ∃ quote rest, isQuote quote = true ∧ t.text.toList = quote :: rest ∧
      quote ∉ rest ++ after

/-- The token of a body at `base` has this byte range of the body. -/
def Occupies (base : Nat) (body : List Char) (range : Nat × Nat) (t : Token) : Prop :=
  ∃ before after, body = before ++ t.text.toList ++ after ∧
    range = byteRange before t.text.toList ∧
    t.span = (Span.ofRange range.1 range.2).offset base ∧ t.Formed before after

/-- No run of bare characters goes on from one text to the next one. -/
def Seam (before after : List Char) : Prop :=
  ∀ c ∈ before.getLast?, isBare c = true → ∀ d ∈ after.head?, isBare d = false

theorem Seam.append {between after : List Char} (h : Seam between after) (hne : between ≠ [])
    (before : List Char) : Seam (before ++ between) after := by
  obtain ⟨last, hlast⟩ := Option.ne_none_iff_exists'.1 (mt List.getLast?_eq_none_iff.1 hne)
  intro c hc
  rw [List.getLast?_append, hlast, Option.some_or, ← hlast] at hc
  exact h c hc

theorem seam_of_isGap {c : Char} (hgap : isGap c = true) (after : List Char) :
    Seam [c] after := by
  intro d hd hbare
  obtain rfl : c = d := by simpa using hd
  rw [isBare_of_isGap hgap] at hbare
  cases hbare

/-- The text of the first token is the front of what is lexed, and is not empty. -/
theorem append_of_first {c : Char} {cs text rest : List Char} {kind : TokenKind}
    (h : first c cs = (kind, text, rest)) : ∃ tail, text ++ rest = c :: cs ∧ text = c :: tail := by
  have happend := first_append c cs
  rw [h] at happend
  cases text with
  | nil =>
      have hshorter := length_first_le c cs
      rw [h] at hshorter
      dsimp only at happend hshorter
      rw [show rest = c :: cs from happend, List.length_cons] at hshorter
      omega
  | cons d tail =>
      cases happend
      exact ⟨tail, rfl, rfl⟩

/-- Nothing is left behind a quote that is never closed. -/
theorem rest_of_first_openQuote {c : Char} {cs token rest : List Char}
    (h : first c cs = (.openQuote, token, rest)) : rest = [] := by
  rw [first] at h
  cases hsep : separator? c with
  | some kind =>
      obtain ⟨-, rfl⟩ | ⟨-, rfl⟩ | ⟨-, rfl⟩ := separator?_cases hsep <;> simp [hsep] at h
  | none =>
      by_cases hquote : isQuote c = true
      · simp only [hsep, hquote, if_true] at h
        split at h <;> cases h
        rfl
      · simp [hsep, hquote] at h

theorem seam_first {c : Char} {cs token rest : List Char} {kind : TokenKind}
    (hgap : isGap c = false) (h : first c cs = (kind, token, rest)) : Seam token rest := by
  have hshape := shape_first cs hgap
  rw [h] at hshape
  intro last hlast hbare
  cases kind with
  | bare => exact fun d hd => head_of_first_bare h hd
  | openQuote =>
      rw [rest_of_first_openQuote h]
      simp
  | bar | colon | comma =>
      obtain ⟨d, hsep, rfl⟩ := hshape
      cases hlast
      simp [isBare, hsep] at hbare
  | quoted =>
      obtain ⟨quote, value, hquote, -, rfl⟩ := hshape
      rw [List.getLast?_concat] at hlast
      cases hlast
      simp [isBare, hquote] at hbare

theorem formed_first {c : Char} {cs token rest before : List Char} {kind : TokenKind} {span : Span}
    (hgap : isGap c = false) (h : first c cs = (kind, token, rest))
    (hseam : Seam before (c :: cs)) :
    Formed ⟨kind, String.ofList token, span⟩ before rest := by
  have hshape := shape_first cs hgap
  rw [h] at hshape
  rw [Formed, String.toList_ofList]
  cases kind with
  | bar | colon | comma =>
      obtain ⟨d, hsep, rfl⟩ := hshape
      obtain ⟨rfl, hkind⟩ | ⟨rfl, hkind⟩ | ⟨rfl, hkind⟩ := separator?_cases hsep <;> cases hkind
      rfl
  | quoted =>
      obtain ⟨quote, value, hquote, hmem, rfl⟩ := hshape
      refine ⟨quote, value, hquote, hmem, rfl, ?_⟩
      rw [unquoted, unquotedChars_of_quoted rfl (String.toList_ofList ..)]
  | bare =>
      obtain ⟨hne, hbare⟩ := hshape
      obtain ⟨tail, -, rfl⟩ := append_of_first h
      have hc : isBare c = true := hbare c List.mem_cons_self
      refine ⟨hne, hbare, fun d hd => ?_, fun d hd => head_of_first_bare h hd⟩
      rw [← Bool.not_eq_true]
      intro hd'
      rw [hseam d hd hd' c rfl] at hc
      cases hc
  | openQuote =>
      obtain ⟨quote, value, hquote, hmem, rfl⟩ := hshape
      refine ⟨quote, value, hquote, rfl, ?_⟩
      rwa [rest_of_first_openQuote h, List.append_nil]

/-- A body is empty, or it starts with a gap or with a token that has a body behind it. -/
@[elab_as_elim]
theorem body_induction {P : List Char → Prop} (nil : P [])
    (gap : ∀ c cs, isGap c = true → P cs → P (c :: cs))
    (token : ∀ c cs kind text rest, isGap c = false → first c cs = (kind, text, rest) → P rest →
      P (c :: cs)) (cs : List Char) : P cs := by
  induction hlength : cs.length using Nat.strongRecOn generalizing cs with
  | ind length ih =>
      cases cs with
      | nil => exact nil
      | cons c cs =>
          rw [List.length_cons] at hlength
          cases hgap : isGap c with
          | true => exact gap c cs hgap (ih cs.length (by omega) cs rfl)
          | false =>
              cases hfirst : first c cs with
              | mk kind tail =>
                  obtain ⟨text, rest⟩ := tail
                  have hshorter := length_first_le c cs
                  rw [hfirst] at hshorter
                  dsimp only at hshorter
                  exact token c cs kind text rest hgap hfirst (ih _ (by omega) rest rfl)

/-- Every token has its range of the body, of which `before` is the part that was lexed. -/
theorem occupies_lexFrom {base : Nat} {before cs : List Char} (hseam : Seam before cs) :
    List.Forall₂ (Occupies base (before ++ cs)) (ranges (byteSize before) cs)
      (lexFrom base (byteSize before) cs) := by
  induction cs using body_induction generalizing before with
  | nil =>
      rw [ranges, lexFrom]
      exact .nil
  | gap c cs hgap ih =>
      have hbehind := ih ((seam_of_isGap hgap cs).append (by simp) before)
      rw [ranges, lexFrom, if_pos hgap, if_pos hgap]
      simpa [byteSize] using hbehind
  | token c cs kind text rest hgap hfirst ih =>
      obtain ⟨tail, happend, hcons⟩ := append_of_first hfirst
      have hbehind := ih ((seam_first hgap hfirst).append (by simp [hcons]) before)
      rw [List.append_assoc, happend, byteSize_append] at hbehind
      rw [ranges, lexFrom, if_neg (by simp [hgap]), if_neg (by simp [hgap]), hfirst]
      refine .cons ⟨before, rest, ?_, ?_, rfl, formed_first hgap hfirst hseam⟩ hbehind
      · rw [String.toList_ofList, List.append_assoc, happend]
      · rw [String.toList_ofList, byteRange]

/-- Ranges of tokens are not empty, and they are within what is lexed. -/
theorem bounds_of_mem_ranges {offset : Nat} {cs : List Char} {range : Nat × Nat}
    (h : range ∈ ranges offset cs) :
    offset ≤ range.1 ∧ range.1 < range.2 ∧ range.2 ≤ offset + byteSize cs := by
  induction cs using body_induction generalizing offset with
  | nil =>
      rw [ranges] at h
      cases h
  | gap c cs hgap ih =>
      rw [ranges, if_pos hgap] at h
      have hbounds := ih h
      rw [byteSize]
      omega
  | token c cs kind text rest hgap hfirst ih =>
      obtain ⟨tail, happend, rfl⟩ := append_of_first hfirst
      have hpos := c.utf8Size_pos
      have hsize : byteSize (c :: tail) = c.utf8Size + byteSize tail := rfl
      rw [ranges, if_neg (by simp [hgap]), hfirst] at h
      rw [← happend, byteSize_append]
      cases List.mem_cons.1 h with
      | inl heq =>
          rw [heq]
          dsimp only
          omega
      | inr h =>
          have hbounds := ih h
          dsimp only at hbounds
          omega

theorem pairwise_ranges (offset : Nat) (cs : List Char) :
    (ranges offset cs).Pairwise fun range next => range.2 ≤ next.1 := by
  fun_induction ranges offset cs with
  | case1 => exact .nil
  | case2 offset c cs hgap ih => exact ih
  | case3 offset c cs hgap token stop ih =>
      exact .cons (fun next hnext => (bounds_of_mem_ranges hnext).1) ih

/-- A character that is in the range of no token is a gap. -/
theorem isGap_of_forall_ranges (offset : Nat) {cs before after : List Char} {c : Char}
    (hcs : cs = before ++ c :: after)
    (h : ∀ range ∈ ranges offset cs,
      ¬ (range.1 ≤ offset + byteSize before ∧ offset + byteSize before < range.2)) :
    isGap c = true := by
  induction cs using body_induction generalizing offset before with
  | nil => simp at hcs
  | gap d cs hgap ih =>
      rw [ranges, if_pos hgap] at h
      cases before with
      | nil =>
          cases hcs
          exact hgap
      | cons d before =>
          cases hcs
          refine ih (offset + d.utf8Size) rfl ?_
          simpa only [byteSize, Nat.add_assoc] using h
  | token d cs kind text rest hgap hfirst ih =>
      rw [ranges, if_neg (by simp [hgap]), hfirst, List.forall_mem_cons] at h
      obtain ⟨-, happend, -⟩ := append_of_first hfirst
      have hbehind : byteSize text ≤ byteSize before := by
        have hplace := h.1
        dsimp only at hplace
        omega
      obtain ⟨inner, rfl, hrest⟩ := split_of_byteSize_le (happend.trans hcs) hbehind
      refine ih (offset + byteSize text) hrest ?_
      simpa only [byteSize_append, Nat.add_assoc] using h.2

/-- The spans of tokens mark their texts in the body, if offsets reach to its end. -/
theorem slice?_of_mem_ofBody {body : String} {base : Nat}
    (hsize : base + body.utf8ByteSize ≤ Span.maxOffset) {t : Token} (h : t ∈ ofBody body base) :
    (Span.mk (t.span.start - base) (t.span.stop - base)).slice? body = some t.text := by
  obtain ⟨before, after, hbody, hspan⟩ := exists_place_of_mem_lexFrom h
  have hinside : byteSize before + byteSize t.text.toList ≤ body.utf8ByteSize := by
    rw [← byteSize_toList body, hbody]
    simp only [byteSize_append]
    omega
  rw [Nat.zero_add, Span.offset_ofRange_of_le (by omega) (by omega)] at hspan
  refine Span.slice?_eq_some_iff.2 ⟨before, after, hbody, ?_⟩
  rw [hspan, Nat.add_sub_cancel_left, Nat.add_sub_cancel_left]

end Token

namespace Lexeme

/-- Lexemes with a gap in front of each, and a gap behind the last one. -/
def spaced (items : List (List Char × Lexeme)) (last : List Char) : List Char :=
  items.flatMap (fun item => item.1 ++ item.2.chars) ++ last

/-- Gaps may be empty, but not between two bare lexemes. -/
structure Spaced (items : List (List Char × Lexeme)) (last : List Char) : Prop where
  complete : ∀ item ∈ items, item.2.Complete
  gaps : ∀ item ∈ items, ∀ c ∈ item.1, isGap c = true
  lastGap : ∀ c ∈ last, isGap c = true
  apart : items.IsChain fun item next => item.2.Apart next.2 ∨ next.1 ≠ []

/-- A bare lexeme in front of spaced ones ends where they start. -/
theorem Spaced.head {gap last : List Char} {l : Lexeme} {items : List (List Char × Lexeme)}
    (h : Spaced ((gap, l) :: items) last) (hbare : l.kind = .bare) :
    ∀ c ∈ (spaced items last).head?, isBare c = false := by
  intro c hc
  cases items with
  | nil => exact isBare_of_isGap (h.lastGap c (List.mem_of_mem_head? hc))
  | cons item items =>
      obtain ⟨between, m⟩ := item
      cases between with
      | cons d between =>
          have hgap := h.gaps (d :: between, m) (by simp) d List.mem_cons_self
          obtain rfl : d = c := by simpa [spaced] using hc
          exact isBare_of_isGap hgap
      | nil =>
          have hapart := ((List.isChain_cons_cons.1 h.apart).1.resolve_right (by simp))
          have hm := hapart.resolve_left (not_not_intro hbare)
          obtain ⟨d, cs, hchars, -, hd⟩ := (h.complete ([], m) (by simp)).start
          dsimp only at hchars
          obtain rfl : d = c := by simpa [spaced, hchars] using hc
          exact hd hm

/-- Spaced lexemes are lexed as they were written. -/
theorem Spaced.lexemes_eq {items : List (List Char × Lexeme)} {last : List Char}
    (h : Spaced items last) : lexemes (spaced items last) = items.map (·.2) := by
  induction items with
  | nil =>
      have hnil : lexemes [] = [] := by simp [lexemes, lexFrom]
      have hgaps := lexemes_gaps h.lastGap []
      rwa [List.append_nil, hnil] at hgaps
  | cons item items ih =>
      obtain ⟨gap, l⟩ := item
      have hrest : Spaced items last :=
        ⟨fun item hitem => h.complete item (by simp [hitem]),
          fun item hitem => h.gaps item (by simp [hitem]), h.lastGap, h.apart.tail⟩
      obtain ⟨c, cs, hchars, hgap, -⟩ := (h.complete (gap, l) (by simp)).start
      have hfirst := (h.complete (gap, l) (by simp)).first_eq hchars h.head
      have hspaced : spaced ((gap, l) :: items) last =
          gap ++ c :: (cs ++ spaced items last) := by
        dsimp only at hchars
        simp [spaced, hchars]
      rw [hspaced, lexemes_gaps (h.gaps (gap, l) (by simp)), lexemes_cons (by simp [hgap]), hfirst,
        ih hrest]
      rfl

end Lexeme

/-- The tokens of a body have byte ranges of it in order and apart from each other, each with the
text and the characters of its kind, and everything else is gaps; and complete lexemes with gaps
between them are lexed as they were written. -/
theorem Token.ofBody_partition (base : Nat) :
    (∀ body : String, ∃ ranges : List (Nat × Nat),
      List.Forall₂ (Occupies base body.toList) ranges (ofBody body base) ∧
      (∀ range ∈ ranges, range.1 < range.2) ∧
      (ranges.Pairwise fun range next => range.2 ≤ next.1) ∧
      (∀ before c after, body.toList = before ++ c :: after →
        (∀ range ∈ ranges, ¬ (range.1 ≤ byteSize before ∧ byteSize before < range.2)) →
        isGap c = true) ∧
      (base + body.utf8ByteSize ≤ Span.maxOffset → ∀ t ∈ ofBody body base,
        (Span.mk (t.span.start - base) (t.span.stop - base)).slice? body = some t.text)) ∧
    ∀ items last, Lexeme.Spaced items last →
      (ofBody (String.ofList (Lexeme.spaced items last)) base).map (·.lexeme) =
        items.map (·.2) := by
  refine ⟨fun body => ⟨ranges 0 body.toList, ?_, ?_, pairwise_ranges 0 _, ?_, ?_⟩, ?_⟩
  · have hseam : Seam [] body.toList := by simp [Seam]
    exact occupies_lexFrom hseam
  · exact fun range hrange => (bounds_of_mem_ranges hrange).2.1
  · intro before c after hbody h
    refine isGap_of_forall_ranges 0 hbody ?_
    simpa only [Nat.zero_add] using h
  · exact fun hsize t ht => slice?_of_mem_ofBody hsize ht
  · intro items last h
    rw [ofBody, String.toList_ofList, map_lexeme_lexFrom, h.lexemes_eq]

/-- Two bare lexemes, a quoted one that hides a quote and a bar, and a bar; and a body that ends
at the greatest offset in a quote that is never closed. -/
theorem Token.ofBody_partition_quotes :
    let items : List (List Char × Lexeme) := [([], ⟨.bare, ['é']⟩), ([' '], ⟨.bare, ['-']⟩),
      ([], ⟨.quoted, ['\'', '"', '|', '\'']⟩), ([], ⟨.bar, ['|']⟩)]
    (ofBody (String.ofList (Lexeme.spaced items ['\u3000'])) 5).map (·.lexeme) =
      items.map (·.2) ∧
    ∀ t ∈ ofBody "é '" 4294967291,
      (Span.mk (t.span.start - 4294967291) (t.span.stop - 4294967291)).slice? "é '" =
        some t.text := by
  intro items
  refine ⟨(ofBody_partition 5).2 items ['\u3000'] ⟨?_, ?_, ?_, ?_⟩, ?_⟩
  · simp only [items, List.forall_mem_cons]
    refine ⟨⟨⟨by simp, List.forall_mem_singleton.2 (by decide +kernel)⟩, by decide⟩,
      ⟨⟨by simp, List.forall_mem_singleton.2 (by decide +kernel)⟩, by decide⟩, ⟨?_, by decide⟩,
      ⟨⟨'|', rfl, rfl⟩, by decide⟩, by simp⟩
    exact ⟨'\'', ['"', '|'], rfl, by decide, rfl⟩
  · have hblank : isGap ' ' = true := by decide +kernel
    simp [items, hblank]
  · exact List.forall_mem_singleton.2 (by decide +kernel)
  · simp [items, Lexeme.Apart]
  · obtain ⟨ranges, -, -, -, -, hslice⟩ := (ofBody_partition 4294967291).1 "é '"
    exact hslice (by decide)

end TextTemplate
