import TextTemplate.NumberPattern.Parser

/-!
Writing number patterns. Every pattern has one written form; reading also accepts zeros in front
of a precision and, behind the zero that asks for padding, in front of a width.
-/
namespace TextTemplate.NumberPattern

def optionChars {α : Type} (chars : α → List Char) : Option α → List Char
  | none => []
  | some a => chars a

def markChars (mark : Char) (present : Bool) : List Char :=
  if present then [mark] else []

def Alignment.chars (a : Alignment) : List Char :=
  a.fill.toList ++ [a.side.char]

/-- The pattern as it is written. -/
def chars (p : NumberPattern) : List Char :=
  optionChars Alignment.chars p.alignment ++ optionChars (fun s => [s.char]) p.sign ++
    optionChars (fun s => [s.char]) p.symbol ++ markChars '0' p.zeroPad ++
    optionChars (Nat.toDigits 10) p.width ++ markChars ',' p.grouping ++
    optionChars (fun n => '.' :: Nat.toDigits 10 n) p.precision ++ markChars '~' p.trim ++
    optionChars (fun s => [s.char]) p.style

/-- What holds of every pattern that can be read: fields are not too large, and a width of zero
needs the zero that asks for padding in front. -/
structure WellFormed (p : NumberPattern) : Prop where
  width_le : ∀ n, p.width = some n → n ≤ maxField
  precision_le : ∀ n, p.precision = some n → n ≤ maxField
  width_zero : p.width = some 0 → p.zeroPad = true

end TextTemplate.NumberPattern
