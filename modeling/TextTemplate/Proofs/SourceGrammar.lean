import TextTemplate.Syntax.Parser

/-!
The grammar of sources, as a relation between characters and the segments that they write. Literal
text has no pair of opening braces, a body ends at the first pair of closing ones, and parsing
succeeds exactly on what the grammar describes.
-/
namespace TextTemplate

/-- There are no two of this brace side by side. -/
def Unpaired (brace : Char) (cs : List Char) : Prop := ¬ [brace, brace] <:+: cs

theorem unpaired_cons {brace a : Char} {cs : List Char} :
    Unpaired brace (a :: cs) ↔ ¬ (a = brace ∧ cs.head? = some brace) ∧ Unpaired brace cs := by
  have hprefix : [brace, brace] <+: a :: cs ↔ a = brace ∧ cs.head? = some brace := by
    cases cs with
    | nil => simp
    | cons b cs => simp [List.cons_prefix_cons, eq_comm]
  simp only [Unpaired, List.infix_cons_iff, hprefix, not_or]

@[simp]
theorem unpaired_nil (brace : Char) : Unpaired brace [] := by simp [Unpaired]

theorem unpaired_of_not_mem {brace : Char} {cs : List Char} (h : brace ∉ cs) :
    Unpaired brace cs := fun hwithin => h (hwithin.subset (by simp))

theorem unpaired_of_infix {brace : Char} {inner outer : List Char} (h : Unpaired brace outer)
    (hwithin : inner <:+: outer) : Unpaired brace inner := fun hpair => h (hpair.trans hwithin)

theorem unpaired_append {brace : Char} {first rest : List Char} :
    Unpaired brace (first ++ rest) ↔ Unpaired brace first ∧ Unpaired brace rest ∧
      ¬ (first.getLast? = some brace ∧ rest.head? = some brace) := by
  induction first with
  | nil => simp
  | cons a first ih =>
      rw [List.cons_append, unpaired_cons, unpaired_cons, ih]
      cases first with
      | nil => simp [and_comm]
      | cons b first => simp [and_assoc]

theorem byteSize_pair {brace : Char} (h : brace.utf8Size = 1) (before rest : List Char) :
    Text.byteSize (before ++ brace :: brace :: rest) =
      Text.byteSize before + 2 + Text.byteSize rest := by
  simp only [Text.byteSize_append, Text.byteSize, h]
  omega

namespace Fragment

theorem splitPair_cons (brace a : Char) (cs : List Char) :
    splitPair brace (a :: cs) =
      if a = brace ∧ cs.head? = some brace then some ([], cs.tail)
      else (splitPair brace cs).map fun (before, after) => (a :: before, after) := by
  cases cs with
  | nil => simp [splitPair]
  | cons b cs => simp [splitPair]

theorem splitPair_eq_none_iff {brace : Char} {cs : List Char} :
    splitPair brace cs = none ↔ Unpaired brace cs := by
  induction cs with
  | nil => simp [splitPair]
  | cons a cs ih =>
      rw [splitPair_cons, unpaired_cons]
      by_cases h : a = brace ∧ cs.head? = some brace
      · simp [h]
      · simp [h, ih]

/-- Text is split at the first pair. -/
theorem splitPair_append_iff {brace : Char} {before rest : List Char} :
    splitPair brace (before ++ brace :: brace :: rest) = some (before, rest) ↔
      Unpaired brace (before ++ [brace]) := by
  induction before with
  | nil =>
      have h : Unpaired brace [brace] := by simp [Unpaired, List.infix_cons_iff]
      simp [splitPair, h]
  | cons a before ih =>
      have hhead : (before ++ brace :: brace :: rest).head? = (before ++ [brace]).head? := by
        cases before <;> rfl
      rw [List.cons_append, List.cons_append, splitPair_cons, unpaired_cons, hhead]
      by_cases h : a = brace ∧ (before ++ [brace]).head? = some brace
      · simp [h]
      · rw [if_neg h, and_iff_right h, ← ih]
        simp

theorem splitPair_eq_some_iff {brace : Char} {cs before rest : List Char} :
    splitPair brace cs = some (before, rest) ↔
      cs = before ++ brace :: brace :: rest ∧ Unpaired brace (before ++ [brace]) := by
  constructor
  · intro h
    have heq := splitPair_eq h
    rw [heq, splitPair_append_iff] at h
    exact ⟨heq, h⟩
  · intro h
    obtain ⟨heq, h⟩ := h
    rw [heq]
    exact splitPair_append_iff.2 h

/-- A source is literal text, or it has a first interpolation, which is never closed or has a source
behind it. -/
@[elab_as_elim]
theorem source_induction {P : List Char → Prop}
    (literal : ∀ text, Unpaired '\x7b' text → P text)
    (unclosed : ∀ before inside, Unpaired '\x7b' (before ++ ['\x7b']) → Unpaired '\x7d' inside →
      P (before ++ '\x7b' :: '\x7b' :: inside))
    (interpolation : ∀ before body after, Unpaired '\x7b' (before ++ ['\x7b']) →
      Unpaired '\x7d' (body ++ ['\x7d']) → P after →
      P (before ++ '\x7b' :: '\x7b' :: (body ++ '\x7d' :: '\x7d' :: after)))
    (cs : List Char) : P cs := by
  -- Scanning goes on behind the body, so the induction is on the length of what is left.
  induction hlength : cs.length using Nat.strongRecOn generalizing cs with
  | ind length ih =>
      subst hlength
      cases hbefore : splitPair '\x7b' cs with
      | none => exact literal cs (splitPair_eq_none_iff.1 hbefore)
      | some parts =>
          obtain ⟨before, inside⟩ := parts
          obtain ⟨rfl, hopen⟩ := splitPair_eq_some_iff.1 hbefore
          cases hbody : splitPair '\x7d' inside with
          | none => exact unclosed before inside hopen (splitPair_eq_none_iff.1 hbody)
          | some parts =>
              obtain ⟨body, after⟩ := parts
              obtain ⟨rfl, hclose⟩ := splitPair_eq_some_iff.1 hbody
              refine interpolation before body after hopen hclose (ih after.length ?_ after rfl)
              simp only [List.length_append, List.length_cons]
              omega

end Fragment

/-- Literal text at an offset, which is left out if it is empty. -/
def literalSegments (offset : Nat) (text : List Char) : List Segment :=
  if text.isEmpty then []
  else [.literal (String.ofList text) (.ofRange offset (offset + Text.byteSize text))]

/-- The segments that characters at an offset write. -/
inductive Writes : Nat → List Char → List Segment → Prop
  | literal {offset : Nat} {text : List Char} (unpaired : Unpaired '\x7b' text) :
      Writes offset text (literalSegments offset text)
  | interpolation {offset start size : Nat} {before body after : List Char} {i : Interpolation}
      {rest : List Segment} (hstart : start = offset + Text.byteSize before)
      (hsize : size = Text.byteSize body) (opens : Unpaired '\x7b' (before ++ ['\x7b']))
      (closes : Unpaired '\x7d' (body ++ ['\x7d']))
      (parsed : Syntax.parseInterpolation (String.ofList body)
        (.ofRange (start + 2) (start + 2 + size)) (.ofRange start (start + 4 + size)) = .ok i)
      (others : Writes (start + 4 + size) after rest) :
      Writes offset (before ++ '\x7b' :: '\x7b' :: (body ++ '\x7d' :: '\x7d' :: after))
        (literalSegments offset before ++ .interpolation i :: rest)

namespace Syntax
open Fragment

theorem parseFragments_append (scanFault : Option CompileError) (fragments others : List Fragment) :
    parseFragments scanFault (fragments ++ others) =
      (parseFragments none fragments).bind fun segments =>
        (parseFragments scanFault others).map (segments ++ ·) := by
  induction fragments with
  | nil =>
      cases h : parseFragments scanFault others <;>
        simp [parseFragments, h, Except.map, Except.bind]
  | cons f fragments ih =>
      simp only [List.cons_append, parseFragments, ih]
      cases parseFragment f with
      | error e => rfl
      | ok segment =>
          cases parseFragments none fragments with
          | error e => rfl
          | ok segments => cases parseFragments scanFault others <;> rfl

theorem parseFragments_literals (scanFault : Option CompileError) (offset : Nat)
    (text : List Char) (fragments : List Fragment) :
    parseFragments scanFault (literals offset text ++ fragments) =
      (parseFragments scanFault fragments).map (literalSegments offset text ++ ·) := by
  have hliterals : parseFragments none (literals offset text) =
      .ok (literalSegments offset text) := by
    cases text <;> rfl
  rw [parseFragments_append, hliterals]
  rfl

/-- What stands at an offset, scanned and parsed. -/
def parseFrom (offset : Nat) (cs : List Char) : Except CompileError (List Segment) :=
  parseFragments (scanFrom offset cs).fault (scanFrom offset cs).fragments

theorem scanFrom_literal {text : List Char} (h : Unpaired '\x7b' text) (offset : Nat) :
    scanFrom offset text = ⟨literals offset text, none⟩ := by
  have hopen := splitPair_eq_none_iff.2 h
  rw [scanFrom]
  split
  · rfl
  · rename_i hsome
    rw [hopen] at hsome
    cases hsome

theorem scanFrom_unclosed {before inside : List Char}
    (hopen : Unpaired '\x7b' (before ++ ['\x7b'])) (hclose : Unpaired '\x7d' inside)
    (offset : Nat) :
    let start := offset + Text.byteSize before
    scanFrom offset (before ++ '\x7b' :: '\x7b' :: inside) =
      ⟨[], some ⟨.unterminatedInterpolation, .ofRange start (start + 2)⟩⟩ := by
  intro start
  have hbefore : splitPair '\x7b' (before ++ '\x7b' :: '\x7b' :: inside) = some (before, inside) :=
    splitPair_append_iff.2 hopen
  have hinside := splitPair_eq_none_iff.2 hclose
  rw [scanFrom]
  split
  · rename_i hnone
    rw [hbefore] at hnone
    cases hnone
  · rename_i hsome
    rw [hbefore] at hsome
    cases hsome
    dsimp only
    split
    · rfl
    · rename_i hsome
      rw [hinside] at hsome
      cases hsome

theorem scanFrom_interpolation {before body after : List Char}
    (hopen : Unpaired '\x7b' (before ++ ['\x7b'])) (hclose : Unpaired '\x7d' (body ++ ['\x7d']))
    (offset : Nat) :
    let start := offset + Text.byteSize before
    let rest := scanFrom (start + 4 + Text.byteSize body) after
    scanFrom offset (before ++ '\x7b' :: '\x7b' :: (body ++ '\x7d' :: '\x7d' :: after)) =
      ⟨literals offset before ++ interpolationAt start body :: rest.fragments, rest.fault⟩ := by
  intro start rest
  have hbefore : splitPair '\x7b'
      (before ++ '\x7b' :: '\x7b' :: (body ++ '\x7d' :: '\x7d' :: after)) =
        some (before, body ++ '\x7d' :: '\x7d' :: after) := splitPair_append_iff.2 hopen
  have hbody : splitPair '\x7d' (body ++ '\x7d' :: '\x7d' :: after) = some (body, after) :=
    splitPair_append_iff.2 hclose
  rw [scanFrom]
  split
  · rename_i hnone
    rw [hbefore] at hnone
    cases hnone
  · rename_i hsome
    rw [hbefore] at hsome
    cases hsome
    dsimp only
    split
    · rename_i hnone
      rw [hbody] at hnone
      cases hnone
    · rename_i hsome
      rw [hbody] at hsome
      cases hsome
      rfl

theorem parseFrom_literal {text : List Char} (h : Unpaired '\x7b' text) (offset : Nat) :
    parseFrom offset text = .ok (literalSegments offset text) := by
  have hliterals := parseFragments_literals none offset text []
  rw [List.append_nil] at hliterals
  simp only [parseFrom, scanFrom_literal h, hliterals, parseFragments, Except.map, List.append_nil]

theorem parseFrom_unclosed {before inside : List Char}
    (hopen : Unpaired '\x7b' (before ++ ['\x7b'])) (hclose : Unpaired '\x7d' inside)
    (offset : Nat) :
    let start := offset + Text.byteSize before
    parseFrom offset (before ++ '\x7b' :: '\x7b' :: inside) =
      .error ⟨.unterminatedInterpolation, .ofRange start (start + 2)⟩ := by
  intro start
  simp only [parseFrom, scanFrom_unclosed hopen hclose, parseFragments, start]

theorem parseFrom_interpolation {before body after : List Char}
    (hopen : Unpaired '\x7b' (before ++ ['\x7b'])) (hclose : Unpaired '\x7d' (body ++ ['\x7d']))
    (offset : Nat) :
    let start := offset + Text.byteSize before
    let size := Text.byteSize body
    parseFrom offset (before ++ '\x7b' :: '\x7b' :: (body ++ '\x7d' :: '\x7d' :: after)) =
      match parseInterpolation (String.ofList body) (.ofRange (start + 2) (start + 2 + size))
          (.ofRange start (start + 4 + size)) with
      | .error e => .error e
      | .ok i => (parseFrom (start + 4 + size) after).map
          (literalSegments offset before ++ .interpolation i :: ·) := by
  intro start size
  unfold parseFrom
  rw [scanFrom_interpolation hopen hclose, parseFragments_literals]
  simp only [parseFragments, parseFragment, interpolationAt, start, size]
  cases parseInterpolation _ _ _ with
  | error e => rfl
  | ok i =>
      simp only [Except.map]
      cases parseFragments _ _ <;> rfl

theorem writes_of_parseFrom {offset : Nat} {cs : List Char} {segments : List Segment}
    (h : parseFrom offset cs = .ok segments) : Writes offset cs segments := by
  induction cs using source_induction generalizing offset segments with
  | literal text hopen =>
      rw [parseFrom_literal hopen] at h
      cases h
      exact .literal hopen
  | unclosed before inside hopen hclose =>
      rw [parseFrom_unclosed hopen hclose] at h
      cases h
  | interpolation before body after hopen hclose ih =>
      rw [parseFrom_interpolation hopen hclose] at h
      split at h
      · cases h
      · rename_i i hparse
        cases hrest : parseFrom (offset + Text.byteSize before + 4 + Text.byteSize body) after with
        | error e => simp [hrest, Except.map] at h
        | ok rest =>
            simp only [hrest, Except.map, Except.ok.injEq] at h
            subst h
            exact .interpolation rfl rfl hopen hclose hparse (ih hrest)

theorem parseFrom_of_writes {offset : Nat} {cs : List Char} {segments : List Segment}
    (h : Writes offset cs segments) : parseFrom offset cs = .ok segments := by
  induction h with
  | literal hopen => exact parseFrom_literal hopen _
  | interpolation hstart hsize hopen hclose hparse _ ih =>
      subst hstart hsize
      rw [parseFrom_interpolation hopen hclose]
      simp only [hparse, ih, Except.map]

theorem parseFrom_eq_ok_iff {offset : Nat} {cs : List Char} {segments : List Segment} :
    parseFrom offset cs = .ok segments ↔ Writes offset cs segments :=
  ⟨writes_of_parseFrom, parseFrom_of_writes⟩

end Syntax

namespace Template

theorem parse_eq (source : String) :
    parse source = (Syntax.parseFrom 0 source.toList).map mk := rfl

theorem parse_eq_ok_iff {source : String} {t : Template} :
    parse source = .ok t ↔ Writes 0 source.toList t.segments := by
  rw [← Syntax.parseFrom_eq_ok_iff, parse_eq]
  cases Syntax.parseFrom 0 source.toList with
  | error e => simp [Except.map]
  | ok segments =>
      obtain ⟨others⟩ := t
      simp [Except.map]

theorem parse_eq_error_iff {source : String} {e : CompileError} :
    parse source = .error e ↔ Syntax.parseFrom 0 source.toList = .error e := by
  rw [parse_eq]
  cases Syntax.parseFrom 0 source.toList <;> simp [Except.map]

end Template
end TextTemplate
