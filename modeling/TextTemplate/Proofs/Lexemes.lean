import Mathlib.Data.List.Chain
import TextTemplate.Proofs.Preliminaries
import TextTemplate.Proofs.TokenShape

/-!
Lexemes: tokens without their places. Lexemes written side by side are lexed again as they were,
unless two bare ones meet.
-/
namespace TextTemplate
open Token

structure Lexeme where
  kind : TokenKind
  chars : List Char
deriving DecidableEq, Repr

def Token.lexeme (t : Token) : Lexeme := ⟨t.kind, t.text.toList⟩

namespace Lexeme

/-- A complete lexeme: its characters have the shape of its kind, and its quotes are closed. -/
structure Complete (l : Lexeme) : Prop where
  shape : Shape l.kind l.chars
  closed : l.kind ≠ .openQuote

/-- Whether the end of one lexeme shows when another one follows at once. -/
def Apart (l m : Lexeme) : Prop := l.kind ≠ .bare ∨ m.kind ≠ .bare

/-- How a lexeme starts: with a character that is no gap, and is no part of a bare token unless
the lexeme is one. -/
theorem Complete.start {l : Lexeme} (h : l.Complete) :
    ∃ c cs, l.chars = c :: cs ∧ Text.isGap c = false ∧ (l.kind ≠ .bare → isBare c = false) := by
  obtain ⟨kind, chars⟩ := l
  obtain ⟨hshape, hclosed⟩ := h
  cases kind with
  | bar | colon | comma =>
      obtain ⟨c, hsep, rfl⟩ := hshape
      refine ⟨c, [], rfl, ?_, fun _ => by simp [isBare, hsep]⟩
      obtain ⟨rfl, -⟩ | ⟨rfl, -⟩ | ⟨rfl, -⟩ := separator?_cases hsep <;> decide
  | quoted =>
      obtain ⟨quote, value, hquote, -, rfl⟩ := hshape
      refine ⟨quote, value ++ [quote], rfl, ?_, fun _ => by simp [isBare, hquote]⟩
      obtain rfl | rfl := isQuote_iff.1 hquote <;> decide
  | bare =>
      obtain ⟨hne, hbare⟩ := hshape
      obtain ⟨c, cs, rfl⟩ := List.exists_cons_of_ne_nil hne
      exact ⟨c, cs, rfl, (isBare_iff.1 (hbare c List.mem_cons_self)).1, fun h => absurd rfl h⟩
  | openQuote => exact absurd rfl hclosed

/-- No complete lexeme but a bare one starts or ends with a brace. -/
theorem Complete.not_brace {l : Lexeme} (h : l.Complete) (hkind : l.kind ≠ .bare) :
    l.chars.head? ≠ some '\x7d' ∧ l.chars.getLast? ≠ some '\x7d' := by
  obtain ⟨kind, chars⟩ := l
  obtain ⟨hshape, hclosed⟩ := h
  cases kind with
  | bar | colon | comma =>
      obtain ⟨c, hsep, rfl⟩ := hshape
      have hne : c ≠ '\x7d' := by
        intro heq
        rw [heq] at hsep
        cases hsep
      simp [hne]
  | quoted =>
      obtain ⟨quote, value, hquote, -, rfl⟩ := hshape
      have hne : quote ≠ '\x7d' := by
        intro heq
        rw [heq] at hquote
        exact absurd hquote (by decide)
      refine ⟨by simp [hne], ?_⟩
      rw [List.getLast?_concat]
      simpa using hne
  | bare => exact absurd rfl hkind
  | openQuote => exact absurd rfl hclosed

/-- A complete lexeme is the first one that is found in front of what does not continue it. -/
theorem Complete.first_eq {l : Lexeme} (h : l.Complete) {c : Char} {cs : List Char}
    (hchars : l.chars = c :: cs) {rest : List Char}
    (hrest : l.kind = .bare → ∀ d ∈ rest.head?, isBare d = false) :
    first c (cs ++ rest) = (l.kind, l.chars, rest) := by
  obtain ⟨kind, chars⟩ := l
  obtain ⟨hshape, hclosed⟩ := h
  dsimp only at hchars
  subst hchars
  cases kind with
  | bar | colon | comma =>
      obtain ⟨d, hsep, heq⟩ := hshape
      cases heq
      simp [first, hsep]
  | quoted =>
      obtain ⟨quote, value, hquote, hmem, heq⟩ := hshape
      cases heq
      have hsep : separator? c = none := by
        obtain rfl | rfl := isQuote_iff.1 hquote <;> rfl
      have hvalue : ∀ d ∈ value, (d != c) = true := by
        intro d hd
        rw [bne_iff_ne]
        intro heq
        exact hmem (heq ▸ hd)
      obtain ⟨htake, hdrop⟩ := takeWhile_append_stop hvalue
        (show ∀ d ∈ (c :: rest).head?, (d != c) = false by simp)
      change first c (value ++ [c] ++ rest) = _
      rw [List.append_assoc, List.singleton_append]
      simp only [first, hsep, hquote, if_true, htake, hdrop]
      rfl
  | bare =>
      obtain ⟨-, hbare⟩ := hshape
      rw [List.forall_mem_cons] at hbare
      obtain ⟨-, hquote, hsep⟩ := isBare_iff.1 hbare.1
      obtain ⟨htake, hdrop⟩ := takeWhile_append_stop hbare.2 (hrest rfl)
      simp [first, hsep, hquote, htake, hdrop]
  | openQuote => exact absurd rfl hclosed

/-- Lexemes that stay apart are lexed as they were written. -/
theorem lexFrom_flatMap {lexemes : List Lexeme} (hcomplete : ∀ l ∈ lexemes, l.Complete)
    (hapart : lexemes.IsChain Apart) (base offset : Nat) :
    (lexFrom base offset (lexemes.flatMap (·.chars))).map (·.lexeme) = lexemes := by
  induction lexemes generalizing offset with
  | nil => simp [lexFrom]
  | cons l lexemes ih =>
      rw [List.forall_mem_cons] at hcomplete
      obtain ⟨c, cs, hchars, hgap, -⟩ := hcomplete.1.start
      have hrest : l.kind = .bare →
          ∀ d ∈ (lexemes.flatMap (·.chars)).head?, isBare d = false := by
        intro hkind d hd
        cases lexemes with
        | nil => simp at hd
        | cons m lexemes =>
            have hm := (List.isChain_cons_cons.1 hapart).1.resolve_left (not_not_intro hkind)
            obtain ⟨e, es, heq, -, hbare⟩ := (hcomplete.2 m List.mem_cons_self).start
            simp only [List.flatMap_cons, heq, List.cons_append, List.head?_cons,
              Option.mem_some_iff] at hd
            subst hd
            exact hbare hm
      have hfirst := hcomplete.1.first_eq hchars hrest
      rw [List.flatMap_cons, hchars, List.cons_append, lexFrom, if_neg (by simp [hgap])]
      simp only [hfirst, List.map_cons, ih hcomplete.2 hapart.tail]
      rw [Token.lexeme, String.toList_ofList]

end Lexeme
end TextTemplate
