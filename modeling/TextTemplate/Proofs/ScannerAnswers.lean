import TextTemplate.Proofs.SourceGrammar
import TextTemplate.Syntax.Scanner

/-!
What a scanner gives, request by request: the fragments of the scan in order, then its fault if
there is one, and nothing from there on.
-/
namespace TextTemplate
open Fragment Syntax

/-- All that is to be said about a source, the fragments first. -/
def Scan.items (scan : Scan) : List (Except CompileError Fragment) :=
  scan.fragments.map .ok ++ scan.fault.toList.map .error

namespace Scanner

/-- A scanner between two requests, with nothing kept and no fault met. -/
def ready (offset : Nat) (rest : List Char) : Scanner := { offset, rest }

theorem answer_of_next {s t : Scanner} {item : Option (Except CompileError Fragment)}
    (h : s.next = (item, t)) : s.answer 0 = item ∧ ∀ n, s.answer (n + 1) = t.answer n := by
  simp [answer, h]

/-- A scanner at its end stays there. -/
theorem answer_of_next_eq_none {s : Scanner} (h : s.next = (none, s)) (n : Nat) :
    s.answer n = none := by
  induction n with
  | zero => rw [(answer_of_next h).1]
  | succ n ih => rw [(answer_of_next h).2, ih]

theorem answer_nil (offset n : Nat) : (ready offset []).answer n = none :=
  answer_of_next_eq_none (by simp [next, ready]) n

/-- The requests behind the first one. -/
theorem answer_cons {s t : Scanner} {item : Except CompileError Fragment}
    {items : List (Except CompileError Fragment)} (h : s.next = (some item, t))
    (ht : ∀ n, t.answer n = items[n]?) (n : Nat) : s.answer n = (item :: items)[n]? := by
  cases n with
  | zero => exact (answer_of_next h).1
  | succ n => rw [(answer_of_next h).2, ht, List.getElem?_cons_succ]

theorem next_literal {text : List Char} (hne : text ≠ []) (h : Unpaired '\x7b' text)
    (offset : Nat) :
    (ready offset text).next =
      (some (.ok (literalAt offset text)), ready (offset + Text.byteSize text) []) := by
  simp [next, ready, hne, splitPair_eq_none_iff.2 h]

theorem next_unclosed {before inside : List Char} (hopen : Unpaired '\x7b' (before ++ ['\x7b']))
    (hclose : Unpaired '\x7d' inside) (offset : Nat) :
    let start := offset + Text.byteSize before
    let cs := before ++ '\x7b' :: '\x7b' :: inside
    (ready offset cs).next =
      (some (.error ⟨.unterminatedInterpolation, .ofRange start (start + 2)⟩),
        { ready offset cs with failed := true }) := by
  simp [next, ready, splitPair_append_iff.2 hopen, splitPair_eq_none_iff.2 hclose]

theorem next_interpolation {before body : List Char}
    (hopen : Unpaired '\x7b' (before ++ ['\x7b'])) (hclose : Unpaired '\x7d' (body ++ ['\x7d']))
    (offset : Nat) (after : List Char) :
    let start := offset + Text.byteSize before
    let found := interpolationAt start body
    let behind := ready (start + 4 + Text.byteSize body) after
    (ready offset (before ++ '\x7b' :: '\x7b' :: (body ++ '\x7d' :: '\x7d' :: after))).next =
      if before.isEmpty then (some (.ok found), behind)
      else (some (.ok (literalAt offset before)), { behind with pending := some found }) := by
  simp [next, ready, splitPair_append_iff.2 hopen, splitPair_append_iff.2 hclose]

/-- The answers are the items of the scan. -/
theorem answer_eq (offset : Nat) (cs : List Char) (n : Nat) :
    (ready offset cs).answer n = (scanFrom offset cs).items[n]? := by
  induction cs using source_induction generalizing offset n with
  | literal text hopen =>
      rw [scanFrom_literal hopen]
      cases text with
      | nil => exact answer_nil offset n
      | cons c text => exact answer_cons (next_literal (by simp) hopen offset) (answer_nil _) n
  | unclosed before inside hopen hclose =>
      rw [scanFrom_unclosed hopen hclose]
      have hend : ∀ n, Scanner.answer { ready offset (before ++ '\x7b' :: '\x7b' :: inside) with
          failed := true } n = none := answer_of_next_eq_none (by simp [next, ready])
      exact answer_cons (next_unclosed hopen hclose offset) hend n
  | interpolation before body after hopen hclose ih =>
      rw [scanFrom_interpolation hopen hclose]
      have hnext := next_interpolation hopen hclose offset after
      cases before with
      | nil => exact answer_cons hnext (ih _) n
      | cons c before =>
          refine answer_cons hnext (fun n => ?_) n
          exact answer_cons rfl (ih _) n

theorem answer_ofSource (source : String) (n : Nat) :
    (ofSource source).answer n = (Scan.ofSource source).items[n]? :=
  answer_eq 0 source.toList n

end Scanner
end TextTemplate
