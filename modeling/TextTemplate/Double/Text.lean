import TextTemplate.Double.Digits

/-!
The two default texts of a number. Template text writes every number positionally; a rendered
value writes very large and very small ones with an exponent, and both zeros alike.
-/
namespace TextTemplate.Double

/-- The number as template text writes it. -/
def plainChars : Double → List Char
  | nan => ['N', 'a', 'N']
  | infinite negative => (if negative then ['-'] else []) ++ ['i', 'n', 'f']
  | finite negative m => (if negative then ['-'] else []) ++ m.shortest.positional

/-- Whether a positive magnitude is written positionally: from the double nearest to a millionth
up to, and not including, `10 ^ 21`. -/
def isPositional (m : Magnitude) : Bool :=
  ((Magnitude.ofDecimal? ⟨1, -6⟩).getD .zero).units ≤ m.units && m.units < 10 ^ 21 * Magnitude.one

/-- A magnitude as a rendered value shows it. -/
def magnitudeChars (m : Magnitude) : List Char :=
  if m.isZero then ['0']
  else if isPositional m then m.shortest.positional
  else m.shortest.scientific 'e'

/-- The number as a rendered value shows it. -/
def valueChars : Double → List Char
  | nan => ['N', 'a', 'N']
  | infinite negative =>
    (if negative then ['-'] else []) ++ ['I', 'n', 'f', 'i', 'n', 'i', 't', 'y']
  | finite negative m =>
    (if negative && !m.isZero then ['-'] else []) ++ magnitudeChars m

end TextTemplate.Double
