import Mathlib.Data.List.Chain
import TextTemplate.Proofs.ScannerAnswers

/-!
The one legal decomposition of a source. Pieces are literal texts and the bodies of interpolations,
without their places. A source that scans is spelled by exactly one legal list of pieces, and the
scan lays that list out; one that does not scan is left open behind a legal list. What is proved of
a list that ends in no literal holds in front of any other text.
-/
namespace TextTemplate
open Fragment Syntax

inductive Piece where
  | literal (text : List Char)
  | interpolation (body : List Char)
deriving DecidableEq, Repr

namespace Piece

/-- The piece as it stands in a source. -/
def chars : Piece → List Char
  | literal text => text
  | interpolation body => '\x7b' :: '\x7b' :: (body ++ ['\x7d', '\x7d'])

/-- Whether one piece may stand directly in front of another one. -/
def MayPrecede : Piece → Piece → Prop
  | literal _, literal _ => False
  | literal text, interpolation _ => text.getLast? ≠ some '\x7b'
  | interpolation _, _ => True

/-- The fragment that the piece is at an offset. -/
def place (offset : Nat) : Piece → Fragment
  | literal text => literalAt offset text
  | interpolation body => interpolationAt offset body

/-- The fragments that pieces are one behind the other. -/
def layOut (offset : Nat) : List Piece → List Fragment
  | [] => []
  | p :: ps => p.place offset :: layOut (offset + Text.byteSize p.chars) ps

/-- The text that pieces spell. -/
def spelled (pieces : List Piece) : List Char := pieces.flatMap chars

/-- Literal text, which is left out if it is empty. -/
def literals (text : List Char) : List Piece :=
  if text.isEmpty then [] else [literal text]

/-- Literals are not empty, have no pair of opening braces, and stand neither side by side nor with
such a brace at their end in front of an interpolation; a body neither has a pair of closing braces
nor ends in one. -/
structure Legal (pieces : List Piece) : Prop where
  literals : ∀ text, literal text ∈ pieces → text ≠ [] ∧ Unpaired '\x7b' text
  bodies : ∀ body, interpolation body ∈ pieces →
    Unpaired '\x7d' body ∧ body.getLast? ≠ some '\x7d'
  neighbours : pieces.IsChain MayPrecede

/-- Legal pieces that end in no literal, with text `before` behind them that may be empty, and an
opening pair behind that, which nothing inside closes. -/
structure LeftOpen (pieces : List Piece) (before inside : List Char) : Prop where
  legal : Legal pieces
  last : ∀ text, pieces.getLast? ≠ some (literal text)
  literal : Unpaired '\x7b' before ∧ before.getLast? ≠ some '\x7b'
  unclosed : Unpaired '\x7d' inside

/-- Legal lists that end in no literal, one interpolation at a time. -/
inductive Closed : List Piece → Prop
  | nil : Closed []
  | cons {before body : List Char} {rest : List Piece}
      (opens : Unpaired '\x7b' (before ++ ['\x7b'])) (closes : Unpaired '\x7d' (body ++ ['\x7d']))
      (others : Closed rest) : Closed (literals before ++ interpolation body :: rest)

@[simp]
theorem spelled_append (front rest : List Piece) :
    spelled (front ++ rest) = spelled front ++ spelled rest :=
  List.flatMap_append

@[simp]
theorem spelled_literals (text : List Char) : spelled (literals text) = text := by
  cases text <;> simp [literals, spelled, chars]

@[simp]
theorem spelled_interpolation (body : List Char) (rest : List Piece) :
    spelled (interpolation body :: rest) =
      '\x7b' :: '\x7b' :: (body ++ '\x7d' :: '\x7d' :: spelled rest) := by
  simp [spelled, chars]

theorem layOut_append (offset : Nat) (front rest : List Piece) :
    layOut offset (front ++ rest) =
      layOut offset front ++ layOut (offset + Text.byteSize (spelled front)) rest := by
  induction front generalizing offset with
  | nil => rfl
  | cons p front ih =>
      simp only [List.cons_append, layOut, ih, spelled, List.flatMap_cons, Text.byteSize_append,
        Nat.add_assoc]

theorem layOut_literals (offset : Nat) (text : List Char) :
    layOut offset (literals text) = Fragment.literals offset text := by
  cases text <;> rfl

theorem byteSize_interpolation (body : List Char) :
    Text.byteSize (interpolation body).chars = 4 + Text.byteSize body := by
  have hopen := byteSize_pair (show '\x7b'.utf8Size = 1 by decide) [] (body ++ ['\x7d', '\x7d'])
  have hclose := byteSize_pair (show '\x7d'.utf8Size = 1 by decide) body []
  rw [List.nil_append, hclose] at hopen
  rw [chars, hopen]
  simp only [Text.byteSize]
  omega

theorem place_injective {offset : Nat} {p q : Piece} (h : p.place offset = q.place offset) :
    p = q := by
  cases p with
  | literal text =>
      cases q with
      | literal other =>
          have htext := (Fragment.literal.inj h).1
          rw [String.ofList_inj.1 htext]
      | interpolation other => cases h
  | interpolation body =>
      cases q with
      | literal other => cases h
      | interpolation other =>
          have hbody := (Fragment.interpolation.inj h).1
          rw [String.ofList_inj.1 hbody]

/-- Pieces can be read off the fragments that they are laid out as. -/
theorem layOut_injective {offset : Nat} {pieces others : List Piece}
    (h : layOut offset pieces = layOut offset others) : pieces = others := by
  induction pieces generalizing offset others with
  | nil =>
      cases others with
      | nil => rfl
      | cons q others => cases h
  | cons p pieces ih =>
      cases others with
      | nil => cases h
      | cons q others =>
          rw [layOut, layOut, List.cons.injEq] at h
          obtain rfl := place_injective h.1
          rw [ih h.2]

theorem unpaired_concat {brace : Char} {cs : List Char} :
    Unpaired brace (cs ++ [brace]) ↔ Unpaired brace cs ∧ cs.getLast? ≠ some brace := by
  have hone : Unpaired brace [brace] := by simp [unpaired_cons]
  rw [unpaired_append]
  simp [hone]

theorem legal_literals {text : List Char} (h : Unpaired '\x7b' text) : Legal (literals text) := by
  cases text with
  | nil => exact ⟨by simp [literals], by simp [literals], by simp [literals]⟩
  | cons c text =>
      refine ⟨fun other hother => ?_, by simp [literals], by simp [literals]⟩
      simp only [literals, List.isEmpty_cons, Bool.false_eq_true, if_false, List.mem_singleton,
        literal.injEq] at hother
      exact ⟨by simp [hother], hother ▸ h⟩

/-- An interpolation can be put in front of legal pieces, with literal text in front of it. -/
theorem Legal.interpolation {before body : List Char} {rest : List Piece} (h : Legal rest)
    (hopen : Unpaired '\x7b' (before ++ ['\x7b'])) (hclose : Unpaired '\x7d' (body ++ ['\x7d'])) :
    Legal (Piece.literals before ++ .interpolation body :: rest) := by
  rw [unpaired_concat] at hopen hclose
  have hbefore := legal_literals hopen.1
  refine ⟨fun text htext => ?_, fun other hother => ?_, ?_⟩
  · simp only [List.mem_append, List.mem_cons, reduceCtorEq, false_or] at htext
    exact htext.elim (hbefore.literals text) (h.literals text)
  · simp only [List.mem_append, List.mem_cons, interpolation.injEq] at hother
    obtain hother | rfl | hother := hother
    · exact hbefore.bodies other hother
    · exact hclose
    · exact h.bodies other hother
  · rw [List.isChain_append, List.isChain_cons]
    refine ⟨hbefore.neighbours, ⟨fun _ _ => trivial, h.neighbours⟩, ?_⟩
    cases before with
    | nil => simp [Piece.literals]
    | cons c before => simpa [Piece.literals, MayPrecede] using hopen.2

theorem Closed.legal_append {front rest : List Piece} (hfront : Closed front)
    (hrest : Legal rest) : Legal (front ++ rest) := by
  induction hfront with
  | nil => exact hrest
  | cons opens closes _ ih =>
      rw [List.append_assoc, List.cons_append]
      exact ih.interpolation opens closes

/-- A legal list is a closed one, with literal text behind it that may be empty. -/
theorem Legal.exists_closed : ∀ {pieces : List Piece}, Legal pieces →
    ∃ front text, Closed front ∧ Unpaired '\x7b' text ∧ pieces = front ++ Piece.literals text
  | [], _ => ⟨[], [], .nil, by simp, rfl⟩
  | [.literal text], h => by
      obtain ⟨hne, hopen⟩ := h.literals text (by simp)
      exact ⟨[], text, .nil, hopen, by simp [Piece.literals, hne]⟩
  | .literal text :: .literal _ :: _, h => absurd h.neighbours (by simp [MayPrecede])
  | .literal before :: .interpolation body :: rest, h => by
      obtain ⟨hne, hopen⟩ := h.literals before (by simp)
      obtain ⟨hlast, hneighbours⟩ := List.isChain_cons_cons.1 h.neighbours
      have hrest : Legal rest := ⟨fun text ht => h.literals text (by simp [ht]),
        fun other ho => h.bodies other (by simp [ho]), hneighbours.tail⟩
      obtain ⟨front, text, hfront, htext, rfl⟩ := hrest.exists_closed
      have hopens := unpaired_concat.2 ⟨hopen, hlast⟩
      have hcloses := unpaired_concat.2 (h.bodies body (by simp))
      exact ⟨_, text, .cons hopens hcloses hfront, htext, by simp [Piece.literals, hne]⟩
  | .interpolation body :: rest, h => by
      have hrest : Legal rest := ⟨fun text ht => h.literals text (by simp [ht]),
        fun other ho => h.bodies other (by simp [ho]), h.neighbours.tail⟩
      obtain ⟨front, text, hfront, htext, rfl⟩ := hrest.exists_closed
      have hopens : Unpaired '\x7b' ([] ++ ['\x7b']) := by simp [unpaired_cons]
      have hcloses := unpaired_concat.2 (h.bodies body (by simp))
      exact ⟨_, text, .cons hopens hcloses hfront, htext, rfl⟩

theorem Closed.getLast? {front : List Piece} (h : Closed front) (text : List Char) :
    front.getLast? ≠ some (.literal text) := by
  induction h with
  | nil => simp
  | @cons before body rest _ _ _ ih =>
      rw [List.getLast?_append, List.getLast?_cons]
      cases hrest : rest.getLast? with
      | none => simp
      | some p =>
          rw [hrest] at ih
          simpa using ih

theorem closed_iff {pieces : List Piece} :
    Closed pieces ↔ Legal pieces ∧ ∀ text, pieces.getLast? ≠ some (.literal text) := by
  constructor
  · intro h
    have hlegal := h.legal_append (legal_literals (unpaired_nil '\x7b'))
    simp only [literals, List.isEmpty_nil, if_true, List.append_nil] at hlegal
    exact ⟨hlegal, h.getLast?⟩
  · intro h
    obtain ⟨front, text, hfront, -, rfl⟩ := h.1.exists_closed
    cases text with
    | nil => simpa [literals] using hfront
    | cons c text => exact absurd (by simp [literals]) (h.2 (c :: text))

theorem leftOpen_iff {pieces : List Piece} {before inside : List Char} :
    LeftOpen pieces before inside ↔
      Closed pieces ∧ Unpaired '\x7b' (before ++ ['\x7b']) ∧ Unpaired '\x7d' inside := by
  rw [closed_iff, unpaired_concat]
  exact ⟨fun h => ⟨⟨h.legal, h.last⟩, h.literal, h.unclosed⟩,
    fun h => ⟨h.1.1, h.1.2, h.2.1, h.2.2⟩⟩

theorem byteSize_spelled (before body : List Char) (rest : List Piece) :
    Text.byteSize (spelled (literals before ++ interpolation body :: rest)) =
      Text.byteSize before + (4 + Text.byteSize body) + Text.byteSize (spelled rest) := by
  rw [← byteSize_interpolation, spelled_append, spelled_literals, spelled, List.flatMap_cons,
    Text.byteSize_append, Text.byteSize_append, ← spelled, Nat.add_assoc]

/-- Behind a closed list scanning starts afresh. -/
theorem Closed.scanFrom_append {front : List Piece} (h : Closed front) (offset : Nat)
    (cs : List Char) :
    let rest := scanFrom (offset + Text.byteSize (spelled front)) cs
    scanFrom offset (spelled front ++ cs) =
      ⟨layOut offset front ++ rest.fragments, rest.fault⟩ := by
  induction h generalizing offset with
  | nil => rfl
  | @cons before body rest opens closes _ ih =>
      have hstop :
          offset + Text.byteSize (spelled (literals before ++ interpolation body :: rest)) =
            offset + Text.byteSize before + 4 + Text.byteSize body +
            Text.byteSize (spelled rest) := by
        rw [byteSize_spelled]
        omega
      have hlayOut : layOut offset (literals before ++ interpolation body :: rest) =
          Fragment.literals offset before ++
            interpolationAt (offset + Text.byteSize before) body ::
              layOut (offset + Text.byteSize before + 4 + Text.byteSize body) rest := by
        rw [layOut_append, layOut_literals, spelled_literals, layOut, byteSize_interpolation,
          ← Nat.add_assoc]
        rfl
      rw [hstop, hlayOut, spelled_append, spelled_literals, spelled_interpolation]
      simp only [List.append_assoc, List.cons_append]
      rw [scanFrom_interpolation opens closes, ih]

/-- Every source is a closed list with text behind it that is literal or is left open. -/
theorem exists_closed_prefix (cs : List Char) :
    ∃ front rest, Closed front ∧ cs = spelled front ++ rest ∧
      (Unpaired '\x7b' rest ∨ ∃ before inside, rest = before ++ '\x7b' :: '\x7b' :: inside ∧
        Unpaired '\x7b' (before ++ ['\x7b']) ∧ Unpaired '\x7d' inside) := by
  induction cs using source_induction with
  | literal text hopen => exact ⟨[], text, .nil, rfl, .inl hopen⟩
  | unclosed before inside hopen hclose =>
      exact ⟨[], _, .nil, rfl, .inr ⟨before, inside, rfl, hopen, hclose⟩⟩
  | interpolation before body after hopen hclose ih =>
      obtain ⟨front, rest, hfront, rfl, hrest⟩ := ih
      exact ⟨_, rest, .cons hopen hclose hfront, by simp, hrest⟩

theorem Legal.scanFrom_eq {pieces : List Piece} (h : Legal pieces) (offset : Nat) :
    scanFrom offset (spelled pieces) = ⟨layOut offset pieces, none⟩ := by
  obtain ⟨front, text, hfront, htext, rfl⟩ := h.exists_closed
  rw [spelled_append, spelled_literals, hfront.scanFrom_append, scanFrom_literal htext,
    layOut_append, layOut_literals]

theorem LeftOpen.scanFrom_eq {pieces : List Piece} {before inside : List Char}
    (h : LeftOpen pieces before inside) (offset : Nat) :
    let start := offset + Text.byteSize (spelled pieces ++ before)
    scanFrom offset (spelled pieces ++ (before ++ '\x7b' :: '\x7b' :: inside)) =
      ⟨layOut offset pieces, some ⟨.unterminatedInterpolation, .ofRange start (start + 2)⟩⟩ := by
  obtain ⟨hclosed, hopen, hclose⟩ := leftOpen_iff.1 h
  rw [hclosed.scanFrom_append, scanFrom_unclosed hopen hclose]
  simp [Nat.add_assoc]

/-- A source is spelled by a legal list, or it is left open behind one. -/
theorem legal_or_leftOpen (cs : List Char) :
    (∃ pieces, Legal pieces ∧ cs = spelled pieces) ∨
      ∃ pieces before inside, LeftOpen pieces before inside ∧
        cs = spelled pieces ++ (before ++ '\x7b' :: '\x7b' :: inside) := by
  obtain ⟨front, rest, hfront, rfl, hopen | ⟨before, inside, rfl, hopen, hclose⟩⟩ :=
    exists_closed_prefix cs
  · exact .inl ⟨_, hfront.legal_append (legal_literals hopen), by simp⟩
  · exact .inr ⟨front, before, inside, leftOpen_iff.2 ⟨hfront, hopen, hclose⟩, rfl⟩

end Piece

open Piece

theorem Scan.toExcept_eq_ok_iff {source : String} {fragments : List Fragment} :
    (ofSource source).toExcept = .ok fragments ↔
      ∃ pieces, Legal pieces ∧ spelled pieces = source.toList ∧ fragments = layOut 0 pieces := by
  constructor
  · intro h
    obtain ⟨pieces, hlegal, hsource⟩ | ⟨pieces, before, inside, hopen, hsource⟩ :=
      legal_or_leftOpen source.toList
    · rw [ofSource, hsource, hlegal.scanFrom_eq] at h
      exact ⟨pieces, hlegal, hsource.symm, (Except.ok.inj h).symm⟩
    · rw [ofSource, hsource, hopen.scanFrom_eq] at h
      cases h
  · intro h
    obtain ⟨pieces, hlegal, hsource, rfl⟩ := h
    rw [ofSource, ← hsource, hlegal.scanFrom_eq]
    rfl

theorem Scan.toExcept_eq_error_iff {source : String} {e : CompileError} :
    (ofSource source).toExcept = .error e ↔
      ∃ pieces before inside, LeftOpen pieces before inside ∧
        source.toList = spelled pieces ++ (before ++ '\x7b' :: '\x7b' :: inside) ∧
        e = ⟨.unterminatedInterpolation, .ofRange (Text.byteSize (spelled pieces ++ before))
          (Text.byteSize (spelled pieces ++ before) + 2)⟩ := by
  constructor
  · intro h
    obtain ⟨pieces, hlegal, hsource⟩ | ⟨pieces, before, inside, hopen, hsource⟩ :=
      legal_or_leftOpen source.toList
    · rw [ofSource, hsource, hlegal.scanFrom_eq] at h
      cases h
    · refine ⟨pieces, before, inside, hopen, hsource, ?_⟩
      rw [ofSource, hsource, hopen.scanFrom_eq, Nat.zero_add] at h
      exact (Except.error.inj h).symm
  · intro h
    obtain ⟨pieces, before, inside, hopen, hsource, rfl⟩ := h
    rw [ofSource, hsource, hopen.scanFrom_eq, Nat.zero_add]
    rfl

/-- A scan that succeeds lays out the only legal list that spells the source, and every legal list
that spells it is laid out in this way. Scanning fails exactly where the source is left open behind
a legal list, and then a scanner gives the fragments in front of the last literal text, the error at
the opening pair, and nothing more. -/
theorem Scan.toExcept_unique (source : String) :
    (∀ fragments, (ofSource source).toExcept = .ok fragments →
      (∃ pieces, Legal pieces ∧ spelled pieces = source.toList ∧ fragments = layOut 0 pieces ∧
        ∀ others, Legal others → spelled others = source.toList → others = pieces) ∧
      ∀ n, (Scanner.ofSource source).answer n = (fragments.map Except.ok)[n]?) ∧
    (∀ pieces, Legal pieces → spelled pieces = source.toList →
      (ofSource source).toExcept = .ok (layOut 0 pieces)) ∧
    (∀ e, (ofSource source).toExcept = .error e ↔
      ∃ pieces before inside, LeftOpen pieces before inside ∧
        source.toList = spelled pieces ++ (before ++ '\x7b' :: '\x7b' :: inside) ∧
        e = ⟨.unterminatedInterpolation, .ofRange (Text.byteSize (spelled pieces ++ before))
          (Text.byteSize (spelled pieces ++ before) + 2)⟩) ∧
    (∀ pieces before inside, LeftOpen pieces before inside →
      source.toList = spelled pieces ++ (before ++ '\x7b' :: '\x7b' :: inside) →
      ∀ n, (Scanner.ofSource source).answer n =
        ((layOut 0 pieces).map Except.ok ++
          [.error ⟨.unterminatedInterpolation, .ofRange (Text.byteSize (spelled pieces ++ before))
            (Text.byteSize (spelled pieces ++ before) + 2)⟩])[n]?) := by
  refine ⟨fun fragments h => ⟨?_, fun n => ?_⟩, fun pieces hlegal hsource => ?_,
    fun e => toExcept_eq_error_iff, fun pieces before inside hopen hsource n => ?_⟩
  · obtain ⟨pieces, hlegal, hsource, rfl⟩ := toExcept_eq_ok_iff.1 h
    refine ⟨pieces, hlegal, hsource, rfl, fun others hothers hspelled => ?_⟩
    have hsame := toExcept_eq_ok_iff.2 ⟨others, hothers, hspelled, rfl⟩
    exact layOut_injective (Except.ok.inj (hsame.symm.trans h))
  · obtain ⟨pieces, hlegal, hsource, rfl⟩ := toExcept_eq_ok_iff.1 h
    rw [Scanner.answer_ofSource, ofSource, ← hsource, hlegal.scanFrom_eq]
    simp [items]
  · exact toExcept_eq_ok_iff.2 ⟨pieces, hlegal, hsource, rfl⟩
  · rw [Scanner.answer_ofSource, ofSource, hsource, hopen.scanFrom_eq, Nat.zero_add]
    rfl

/-- Three braces open an interpolation as soon as they can; behind one that is closed, text with a
brace at its front stands before one that is not. -/
theorem Scan.toExcept_braces :
    (Scan.ofSource "é\x7b\x7b\x7ba\x7d\x7d\x7d").toExcept =
      .ok [.literal "é" ⟨0, 2⟩, .interpolation "\x7ba" ⟨4, 6⟩ ⟨2, 8⟩, .literal "\x7d" ⟨8, 9⟩] ∧
    ∀ n, (Scanner.ofSource "\x7b\x7b\x7d\x7d\x7bé\x7b\x7b\x7b\x7d").answer n =
      ([.ok (.interpolation "" ⟨2, 2⟩ ⟨0, 4⟩),
        .error ⟨.unterminatedInterpolation, ⟨7, 9⟩⟩] : List (Except CompileError Fragment))[n]? := by
  refine ⟨?_, ?_⟩
  · refine (toExcept_unique _).2.1
      [.literal ['é'], .interpolation ['\x7b', 'a'], .literal ['\x7d']] ⟨?_, ?_, ?_⟩ rfl
    · simp [unpaired_cons]
    · simp [unpaired_cons]
    · simp [MayPrecede]
  · refine (toExcept_unique _).2.2.2 [.interpolation []] ['\x7b', 'é'] ['\x7b', '\x7d']
      ⟨⟨?_, ?_, ?_⟩, ?_, ?_, ?_⟩ rfl
    all_goals simp [unpaired_cons]

end TextTemplate
