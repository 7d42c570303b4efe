import TextTemplate.CompileError
import TextTemplate.Text.Utf8

/-!
Scanning a source for interpolations. A pair of opening braces starts one and the next pair of
closing braces ends it; a pair of closing braces elsewhere is literal text. The spans of the
fragments tile the source.
-/
namespace TextTemplate

inductive Fragment where
  | literal (text : String) (span : Span)
  | interpolation (body : String) (bodySpan span : Span)
deriving DecidableEq, Repr

/-- The fragments of a source, in order, and the fault at which scanning stopped, if any. -/
structure Scan where
  fragments : List Fragment
  fault : Option CompileError
deriving DecidableEq, Repr

namespace Fragment

/-- The characters in front of the first pair of `brace` and those behind it. -/
def splitPair (brace : Char) : List Char → Option (List Char × List Char)
  | [] | [_] => none
  | a :: b :: cs =>
    if a = brace ∧ b = brace then some ([], cs)
    else (splitPair brace (b :: cs)).map fun (before, after) => (a :: before, after)

theorem splitPair_eq {brace : Char} {cs before after : List Char}
    (h : splitPair brace cs = some (before, after)) : cs = before ++ brace :: brace :: after := by
  fun_induction splitPair brace cs generalizing before with
  | case1 | case2 => simp at h
  | case3 a b cs hab =>
    obtain ⟨rfl, rfl⟩ := hab
    simp only [Option.some.injEq, Prod.mk.injEq] at h
    simp [← h.1, h.2]
  | case4 a b cs hab ih =>
    obtain ⟨⟨before, after⟩, hsplit, heq⟩ := Option.map_eq_some_iff.1 h
    simp only [Prod.mk.injEq] at heq
    obtain ⟨rfl, rfl⟩ := heq
    simp [ih hsplit]

def literalAt (offset : Nat) (text : List Char) : Fragment :=
  literal (String.ofList text) (.ofRange offset (offset + Text.byteSize text))

/-- Literal text at an offset, which is left out if it is empty. -/
def literals (offset : Nat) (text : List Char) : List Fragment :=
  if text.isEmpty then [] else [literalAt offset text]

/-- An interpolation whose opening braces are at an offset. -/
def interpolationAt (offset : Nat) (body : List Char) : Fragment :=
  let size := Text.byteSize body
  interpolation (String.ofList body) (.ofRange (offset + 2) (offset + 2 + size))
    (.ofRange offset (offset + 4 + size))

/-- Scans what stands at an offset. Literal text in front of an interpolation that is never
closed is dropped. -/
def scanFrom (offset : Nat) (cs : List Char) : Scan :=
  match hopen : splitPair '\x7b' cs with
  | none => ⟨literals offset cs, none⟩
  | some (before, inside) =>
    let start := offset + Text.byteSize before
    match hclose : splitPair '\x7d' inside with
    | none =>
      ⟨[], some ⟨.unterminatedInterpolation, .ofRange start (start + 2)⟩⟩
    | some (body, after) =>
      have : after.length < cs.length := by
        simp only [splitPair_eq hopen, splitPair_eq hclose, List.length_append, List.length_cons]
        omega
      let rest := scanFrom (start + 4 + Text.byteSize body) after
      ⟨literals offset before ++ interpolationAt start body :: rest.fragments, rest.fault⟩
termination_by cs.length
decreasing_by assumption

end Fragment

namespace Scan

def ofSource (source : String) : Scan :=
  Fragment.scanFrom 0 source.toList

/-- All fragments of a source that has no fault. -/
def toExcept (scan : Scan) : Except CompileError (List Fragment) :=
  match scan.fault with
  | some e => .error e
  | none => .ok scan.fragments

end TextTemplate.Scan
