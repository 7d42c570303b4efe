import TextTemplate.Syntax.Fragment

/-!
Scanning a source one fragment at a time. Where literal text stands in front of an interpolation,
both are found at once, and the interpolation is kept for the next request. A scanner that met a
fault gives nothing more.
-/
namespace TextTemplate

structure Scanner where
  /-- Where the text that is left starts in the source. -/
  offset : Nat
  rest : List Char
  pending : Option Fragment := none
  failed : Bool := false

namespace Scanner
open Fragment

def ofSource (source : String) : Scanner := { offset := 0, rest := source.toList }

/-- The next fragment or the fault, if there is one, and the scanner behind it. -/
def next (s : Scanner) : Option (Except CompileError Fragment) × Scanner :=
  match s.pending with
  | some fragment => (some (.ok fragment), { s with pending := none })
  | none =>
    if s.failed || s.rest.isEmpty then (none, s)
    else
      match splitPair '\x7b' s.rest with
      | none =>
        let stop := s.offset + Text.byteSize s.rest
        (some (.ok (literalAt s.offset s.rest)), { s with offset := stop, rest := [] })
      | some (before, inside) =>
        let start := s.offset + Text.byteSize before
        match splitPair '\x7d' inside with
        | none =>
          (some (.error ⟨.unterminatedInterpolation, .ofRange start (start + 2)⟩),
            { s with failed := true })
        | some (body, after) =>
          let found := interpolationAt start body
          let behind := { s with offset := start + 4 + Text.byteSize body, rest := after }
          if before.isEmpty then (some (.ok found), behind)
          else (some (.ok (literalAt s.offset before)), { behind with pending := some found })

/-- What the request of this number gives, counted from zero. -/
def answer (s : Scanner) : Nat → Option (Except CompileError Fragment)
  | 0 => s.next.1
  | n + 1 => s.next.2.answer n

end TextTemplate.Scanner
