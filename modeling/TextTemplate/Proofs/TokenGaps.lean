import TextTemplate.Proofs.Lexemes

/-!
Gaps between tokens. A place of a body is between tokens if it is strictly inside the byte range of
none. More gap characters at such a place change where tokens stand and nothing else, unless there
is a quote that is never closed, whose token takes in all that is behind it.
-/
namespace TextTemplate
open Token

namespace Token

/-- The byte ranges of the tokens of what stands at an offset, with no greatest offset. The spans of
the tokens are these ranges as far as spans reach, by `map_span_lexFrom`. -/
def ranges (offset : Nat) : List Char → List (Nat × Nat)
  | [] => []
  | c :: cs =>
    if Text.isGap c then ranges (offset + c.utf8Size) cs
    else
      let token := first c cs
      let stop := offset + Text.byteSize token.2.1
      (offset, stop) :: ranges stop token.2.2
termination_by cs => cs.length
decreasing_by
  · simp
  · exact Nat.lt_succ_of_le (length_first_le c cs)

/-- The spans of tokens are their ranges, as far as spans reach. -/
theorem map_span_lexFrom (base offset : Nat) (cs : List Char) :
    (lexFrom base offset cs).map (·.span) =
      (ranges offset cs).map fun range => (Span.ofRange range.1 range.2).offset base := by
  fun_induction lexFrom base offset cs with
  | case1 => simp [ranges]
  | case2 offset c cs hgap ih =>
      rw [ranges, if_pos hgap]
      exact ih
  | case3 offset c cs hgap token stop ih =>
      rw [ranges, if_neg hgap, List.map_cons, List.map_cons, ih]

end Token

/-- The lexemes of a body. -/
def lexemes (body : List Char) : List Lexeme :=
  (lexFrom 0 0 body).map (·.lexeme)

/-- Where a body stands does not decide its lexemes. -/
theorem map_lexeme_lexFrom (base offset : Nat) (body : List Char) :
    (lexFrom base offset body).map (·.lexeme) = lexemes body := by
  have hplaces : ∀ base' offset', (lexFrom base offset body).map (·.lexeme) =
      (lexFrom base' offset' body).map (·.lexeme) := by
    intro base' offset'
    fun_induction lexFrom base offset body generalizing offset' with
    | case1 => simp [lexFrom]
    | case2 offset c cs hgap ih =>
        rw [lexFrom, if_pos hgap]
        exact ih _
    | case3 offset c cs hgap token stop ih =>
        rw [lexFrom, if_neg hgap, List.map_cons, List.map_cons, ih]
        rfl
  exact hplaces 0 0

theorem lexemes_gap {c : Char} (hgap : Text.isGap c = true) (cs : List Char) :
    lexemes (c :: cs) = lexemes cs := by
  rw [lexemes, lexFrom, if_pos hgap]
  exact map_lexeme_lexFrom _ _ _

theorem lexemes_cons {c : Char} (hgap : ¬ Text.isGap c = true) (cs : List Char) :
    lexemes (c :: cs) =
      ⟨(first c cs).1, (first c cs).2.1⟩ :: lexemes (first c cs).2.2 := by
  rw [lexemes, lexFrom, if_neg hgap, List.map_cons, map_lexeme_lexFrom]
  simp [Token.lexeme]

theorem lexemes_gaps {gaps : List Char} (h : ∀ c ∈ gaps, Text.isGap c = true) (cs : List Char) :
    lexemes (gaps ++ cs) = lexemes cs := by
  induction gaps with
  | nil => rfl
  | cons c gaps ih =>
      rw [List.forall_mem_cons] at h
      rw [List.cons_append, lexemes_gap h.1, ih h.2]

theorem isBare_of_isGap {c : Char} (h : Text.isGap c = true) : isBare c = false := by
  simp [isBare, h]

/-- Behind a bare token stands nothing that could continue it. -/
theorem head_of_first_bare {c d : Char} {cs token rest : List Char}
    (h : first c cs = (.bare, token, rest)) (hd : d ∈ rest.head?) : isBare d = false := by
  rw [first] at h
  cases hsep : separator? c with
  | some kind =>
      obtain ⟨-, rfl⟩ | ⟨-, rfl⟩ | ⟨-, rfl⟩ := separator?_cases hsep <;> simp [hsep] at h
  | none =>
      by_cases hquote : isQuote c = true
      · simp only [hsep, hquote, if_true] at h
        split at h <;> cases h
      · simp only [hsep, hquote, Bool.false_eq_true, if_false, Prod.mk.injEq, true_and] at h
        have hhead := List.head?_dropWhile_not isBare cs
        rw [h.2, Option.mem_def.1 hd] at hhead
        simpa using hhead

/-- A place of a body, of which the part behind an offset is left, that is strictly inside no
token. -/
def Between (offset : Nat) (pre post : List Char) : Prop :=
  ∀ range ∈ ranges offset (pre ++ post),
    ¬ (range.1 < offset + Text.byteSize pre ∧ offset + Text.byteSize pre < range.2)

instance (offset : Nat) (pre post : List Char) : Decidable (Between offset pre post) :=
  inferInstanceAs (Decidable (∀ range ∈ ranges offset (pre ++ post),
    ¬ (range.1 < offset + Text.byteSize pre ∧ offset + Text.byteSize pre < range.2)))

theorem Between.behind_gap {offset : Nat} {c : Char} {pre post : List Char}
    (h : Between offset (c :: pre) post) (hgap : Text.isGap c = true) :
    Between (offset + c.utf8Size) pre post := by
  rw [Between, List.cons_append, ranges, if_pos hgap] at h
  simpa only [Between, Text.byteSize, Nat.add_assoc] using h

/-- A place behind the start of a token is not in front of its end. -/
theorem Between.size_le {offset : Nat} {c : Char} {pre post token rest : List Char}
    {kind : TokenKind} (h : Between offset (c :: pre) post) (hgap : ¬ Text.isGap c = true)
    (hfirst : first c (pre ++ post) = (kind, token, rest)) :
    Text.byteSize token ≤ Text.byteSize (c :: pre) := by
  rw [Between, List.cons_append, ranges, if_neg hgap, List.forall_mem_cons, hfirst] at h
  have hplace := h.1
  have hpos := c.utf8Size_pos
  simp only [Text.byteSize] at hplace ⊢
  omega

theorem Between.behind_token {offset : Nat} {c : Char} {cs behind post : List Char}
    {kind : TokenKind} (h : Between offset (c :: (cs ++ behind)) post)
    (hgap : ¬ Text.isGap c = true)
    (hfirst : first c (cs ++ behind ++ post) = (kind, c :: cs, behind ++ post)) :
    Between (offset + Text.byteSize (c :: cs)) behind post := by
  have hstop : offset + Text.byteSize (c :: (cs ++ behind)) =
      offset + Text.byteSize (c :: cs) + Text.byteSize behind := by
    simp only [Text.byteSize, Text.byteSize_append]
    omega
  rw [Between, List.cons_append, ranges, if_neg hgap, List.forall_mem_cons, hfirst, hstop] at h
  exact h.2

theorem eq_nil_of_byteSize {cs : List Char} (h : Text.byteSize cs = 0) : cs = [] := by
  cases cs with
  | nil => rfl
  | cons c cs =>
      have hpos := c.utf8Size_pos
      simp only [Text.byteSize] at h
      omega

/-- Of two ways to split a text, the one with the shorter front ends within the other front. -/
theorem split_of_byteSize_le {front rest pre post : List Char} (h : front ++ rest = pre ++ post)
    (hsize : Text.byteSize front ≤ Text.byteSize pre) :
    ∃ behind, pre = front ++ behind ∧ rest = behind ++ post := by
  obtain ⟨behind, hpre, hrest⟩ | ⟨extra, hfront, hpost⟩ := List.append_eq_append_iff.1 h
  · exact ⟨behind, hpre, hrest⟩
  · rw [hfront, Text.byteSize_append] at hsize
    have hextra : extra = [] := eq_nil_of_byteSize (by omega)
    exact ⟨[], by simp [hfront, hextra], by simp [hpost, hextra]⟩

/-- A first token that ends in front of a place is also the first one when gaps are put in there. -/
theorem first_insert {c : Char} {pre post gaps token rest : List Char} {kind : TokenKind}
    (hgap : Text.isGap c = false) (hfirst : first c (pre ++ post) = (kind, token, rest))
    (hkind : kind ≠ .openQuote) (hsize : Text.byteSize token ≤ Text.byteSize (c :: pre))
    (hgaps : ∀ d ∈ gaps, Text.isGap d = true) :
    ∃ cs behind, token = c :: cs ∧ pre = cs ++ behind ∧ rest = behind ++ post ∧
      first c (pre ++ (gaps ++ post)) = (kind, token, behind ++ (gaps ++ post)) := by
  have happend := first_append c (pre ++ post)
  have hshape := shape_first (pre ++ post) hgap
  rw [hfirst] at happend hshape
  have hcomplete : Lexeme.Complete ⟨kind, token⟩ := ⟨hshape, hkind⟩
  obtain ⟨d, cs, hchars, -, -⟩ := hcomplete.start
  dsimp only at hchars happend
  rw [hchars, List.cons_append, List.cons.injEq] at happend
  obtain ⟨rfl, happend⟩ := happend
  have hinside : Text.byteSize cs ≤ Text.byteSize pre := by
    simp only [hchars, Text.byteSize] at hsize
    omega
  obtain ⟨behind, hpre, hrest⟩ := split_of_byteSize_le happend hinside
  refine ⟨cs, behind, hchars, hpre, hrest, ?_⟩
  rw [hpre, List.append_assoc]
  refine hcomplete.first_eq hchars fun hbare e he => ?_
  -- What stands behind the token is a gap that was put in, or what stood there before.
  have hbehind (he : e ∈ rest.head?) : isBare e = false := by
    rw [show kind = .bare from hbare] at hfirst
    exact head_of_first_bare hfirst he
  cases behind with
  | cons b behind =>
      refine hbehind ?_
      rw [hrest]
      exact he
  | nil =>
      cases gaps with
      | nil =>
          refine hbehind ?_
          rw [hrest]
          exact he
      | cons g gaps =>
          rw [List.nil_append, List.cons_append, List.head?_cons, Option.mem_some_iff] at he
          exact isBare_of_isGap (hgaps e (by simp [he]))

/-- More gap characters between two tokens change none of the tokens but in place. -/
theorem lexemes_insert {gaps : List Char} (hgaps : ∀ c ∈ gaps, Text.isGap c = true)
    {offset : Nat} {pre post : List Char} (hplace : Between offset pre post)
    (hclosed : ∀ l ∈ lexemes (pre ++ post), l.kind ≠ .openQuote) :
    lexemes (pre ++ (gaps ++ post)) = lexemes (pre ++ post) := by
  -- The lexer takes whole tokens, so the induction is on the length of what is in front.
  induction hlength : pre.length using Nat.strongRecOn generalizing pre offset with
  | ind length ih =>
      cases pre with
      | nil => exact lexemes_gaps hgaps post
      | cons c pre =>
          rw [List.cons_append] at hclosed ⊢
          rw [List.cons_append]
          rw [List.length_cons] at hlength
          by_cases hgap : Text.isGap c = true
          · rw [lexemes_gap hgap] at hclosed ⊢
            rw [lexemes_gap hgap]
            exact ih pre.length (by omega) (hplace.behind_gap hgap) hclosed rfl
          · rw [lexemes_cons hgap, List.forall_mem_cons] at hclosed
            cases hfirst : first c (pre ++ post) with
            | mk kind tail =>
                obtain ⟨token, rest⟩ := tail
                rw [hfirst] at hclosed
                obtain ⟨cs, behind, rfl, rfl, rfl, hinsert⟩ := first_insert
                  (Bool.not_eq_true _ ▸ hgap) hfirst hclosed.1 (hplace.size_le hgap hfirst) hgaps
                have hbehind := hplace.behind_token hgap hfirst
                rw [List.length_append] at hlength
                have htail := ih behind.length (by omega) hbehind hclosed.2 rfl
                rw [lexemes_cons hgap, lexemes_cons hgap, hinsert, hfirst, htail]

end TextTemplate
