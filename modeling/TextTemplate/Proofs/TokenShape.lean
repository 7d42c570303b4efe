import TextTemplate.Syntax.Token

/-!
The shape of tokens. The kind of a token tells which characters it is made of, and every token of
a body has the shape of its kind.
-/
namespace TextTemplate.Token

/-- Whether these characters can be a token of that kind. -/
def Shape : TokenKind → List Char → Prop
  | .quoted, cs =>
    ∃ quote value, isQuote quote = true ∧ quote ∉ value ∧ cs = quote :: value ++ [quote]
  | .bare, cs => cs ≠ [] ∧ ∀ c ∈ cs, isBare c = true
  | .openQuote, cs => ∃ quote rest, isQuote quote = true ∧ quote ∉ rest ∧ cs = quote :: rest
  | kind, cs => ∃ c, separator? c = some kind ∧ cs = [c]

/-- The token has the shape of its kind. -/
def Shaped (t : Token) : Prop := Shape t.kind t.text.toList

theorem isBare_iff {c : Char} : isBare c = true ↔
    Text.isGap c = false ∧ isQuote c = false ∧ separator? c = none := by
  simp [isBare, and_assoc]

theorem isQuote_iff {c : Char} : isQuote c = true ↔ c = '\'' ∨ c = '"' := by
  simp [isQuote]

theorem separator?_cases {c : Char} {kind : TokenKind} (h : separator? c = some kind) :
    (c = '|' ∧ kind = .bar) ∨ (c = ':' ∧ kind = .colon) ∨ (c = ',' ∧ kind = .comma) := by
  unfold separator? at h
  split at h <;> cases h <;> simp

theorem not_mem_takeWhile_ne (c : Char) (cs : List Char) : c ∉ cs.takeWhile (· != c) := by
  intro h
  simpa using List.all_eq_true.1 List.all_takeWhile c h

theorem head_of_dropWhile_ne {c d : Char} {cs rest : List Char}
    (h : cs.dropWhile (· != c) = d :: rest) : d = c := by
  have hhead := List.head?_dropWhile_not (· != c) cs
  rw [h] at hhead
  simpa using hhead

theorem shape_first {c : Char} (cs : List Char) (hc : Text.isGap c = false) :
    Shape (first c cs).1 (first c cs).2.1 := by
  rw [first]
  cases hsep : separator? c with
  | some kind =>
      obtain ⟨rfl, rfl⟩ | ⟨rfl, rfl⟩ | ⟨rfl, rfl⟩ := separator?_cases hsep <;>
        exact ⟨_, hsep, rfl⟩
  | none =>
      cases hquote : isQuote c with
      | false =>
          simp only [Bool.false_eq_true, if_false]
          refine ⟨by simp, ?_⟩
          rw [List.forall_mem_cons]
          refine ⟨isBare_iff.2 ⟨hc, hquote, hsep⟩, ?_⟩
          exact List.all_eq_true.1 List.all_takeWhile
      | true =>
          simp only [if_true]
          cases hrest : cs.dropWhile (· != c) with
          | nil =>
              refine ⟨c, cs, hquote, ?_, rfl⟩
              rw [← List.takeWhile_append_dropWhile (l := cs), hrest, List.append_nil]
              exact not_mem_takeWhile_ne c cs
          | cons quote rest =>
              rw [head_of_dropWhile_ne hrest]
              exact ⟨c, _, hquote, not_mem_takeWhile_ne c cs, rfl⟩

theorem shaped_of_mem_lexFrom {base offset : Nat} {cs : List Char} {t : Token}
    (h : t ∈ lexFrom base offset cs) : t.Shaped := by
  fun_induction lexFrom base offset cs with
  | case1 => simp at h
  | case2 offset c cs hgap ih => exact ih h
  | case3 offset c cs hgap token stop ih =>
      cases List.mem_cons.1 h with
      | inl heq =>
          rw [heq, Shaped, String.toList_ofList]
          exact shape_first cs (Bool.not_eq_true _ ▸ hgap)
      | inr h => exact ih h

theorem first_append (c : Char) (cs : List Char) :
    (first c cs).2.1 ++ (first c cs).2.2 = c :: cs := by
  rw [first]
  split
  · rfl
  · split
    · cases hrest : cs.dropWhile (· != c) with
      | nil => exact List.append_nil _
      | cons quote rest =>
          have happend := List.takeWhile_append_dropWhile (p := (· != c)) (l := cs)
          rw [hrest] at happend
          simp [happend]
    · exact congrArg (c :: ·) List.takeWhile_append_dropWhile

/-- The text of every token stands in the body. -/
theorem infix_of_mem_lexFrom {base offset : Nat} {cs : List Char} {t : Token}
    (h : t ∈ lexFrom base offset cs) : t.text.toList <:+: cs := by
  fun_induction lexFrom base offset cs with
  | case1 => simp at h
  | case2 offset c cs hgap ih => exact (ih h).trans (List.suffix_cons c cs).isInfix
  | case3 offset c cs hgap token stop ih =>
      have happend := first_append c cs
      cases List.mem_cons.1 h with
      | inl heq =>
          rw [heq, String.toList_ofList, ← happend]
          exact (List.prefix_append _ _).isInfix
      | inr h =>
          rw [← happend]
          exact (ih h).trans (List.suffix_append _ _).isInfix

/-- The characters between the quotes are what `unquoted` gives. -/
theorem unquotedChars_of_quoted {t : Token} (hk : t.kind = .quoted) {quote : Char}
    {value : List Char} (ht : t.text.toList = quote :: value ++ [quote]) :
    t.unquotedChars = value := by
  simp [unquotedChars, hk, ht]

end TextTemplate.Token
