import TextTemplate.Span
import TextTemplate.Text.Blank
import TextTemplate.Text.Utf8

/-!
The tokens of an interpolation body. Between tokens blanks and byte order marks are skipped; a
bare token runs up to the next of them, a separator or a quote.
-/
namespace TextTemplate

inductive TokenKind where
  | bar
  | colon
  | comma
  /-- Text between two equal quotes; there are no escapes. -/
  | quoted
  /-- A run of other characters: a path, a filter name, a number or a keyword. -/
  | bare
  /-- A quote that is never closed, with everything behind it. -/
  | openQuote
deriving DecidableEq, Repr

/-- The text keeps the quotes. -/
structure Token where
  kind : TokenKind
  text : String
  span : Span
deriving DecidableEq, Repr

namespace Token

def separator? : Char → Option TokenKind
  | '|' => some .bar
  | ':' => some .colon
  | ',' => some .comma
  | _ => none

def isQuote (c : Char) : Bool := c == '\'' || c == '"'

def isBare (c : Char) : Bool :=
  !Text.isGap c && !isQuote c && (separator? c).isNone

/-- The characters of a quoted token between its quotes; other tokens are left as they are. -/
def unquotedChars (t : Token) : List Char :=
  match t.kind with
  | .quoted => (t.text.toList.drop 1).dropLast
  | _ => t.text.toList

def unquoted (t : Token) : String :=
  String.ofList t.unquotedChars

/-- Kind and characters of the token that starts with `c`, which is no gap, and what is behind
it. -/
def first (c : Char) (cs : List Char) : TokenKind × List Char × List Char :=
  match separator? c with
  | some kind => (kind, [c], cs)
  | none =>
    if isQuote c then
      match cs.dropWhile (· != c) with
      | [] => (.openQuote, c :: cs, [])
      | quote :: rest => (.quoted, c :: cs.takeWhile (· != c) ++ [quote], rest)
    else (.bare, c :: cs.takeWhile isBare, cs.dropWhile isBare)

theorem length_dropWhile_le {α : Type} (p : α → Bool) (l : List α) :
    (l.dropWhile p).length ≤ l.length :=
  (List.dropWhile_sublist p).length_le

theorem length_first_le (c : Char) (cs : List Char) : (first c cs).2.2.length ≤ cs.length := by
  unfold first
  split
  · exact Nat.le_refl _
  · split
    · split
      · simp
      · rename_i quote rest h
        have := length_dropWhile_le (· != c) cs
        simp only [h, List.length_cons] at this
        simp only
        omega
    · exact length_dropWhile_le isBare cs

/-- The tokens of what stands at an offset of a body that is itself at `base`. -/
def lexFrom (base offset : Nat) : List Char → List Token
  | [] => []
  | c :: cs =>
    if Text.isGap c then lexFrom base (offset + c.utf8Size) cs
    else
      let token := first c cs
      let stop := offset + Text.byteSize token.2.1
      ⟨token.1, String.ofList token.2.1, (Span.ofRange offset stop).offset base⟩ ::
        lexFrom base stop token.2.2
termination_by cs => cs.length
decreasing_by
  · simp
  · exact Nat.lt_succ_of_le (length_first_le c cs)

/-- The tokens of a body that is at `base` in its source. -/
def ofBody (body : String) (base : Nat) : List Token :=
  lexFrom base 0 body.toList

end TextTemplate.Token
