import TextTemplate.Decimal.Basic

/-!
Reading numerals: an optional sign, digits with at most one point among or around them, and an
optional power of ten. Nothing may be left over.
-/
namespace TextTemplate

structure Numeral where
  negative : Bool
  magnitude : Decimal
deriving DecidableEq, Repr

namespace Numeral

/-- Whether a minus stands in front, and what follows the sign if there is one. -/
def splitSign : List Char → Bool × List Char
  | '-' :: cs => (true, cs)
  | '+' :: cs => (false, cs)
  | cs => (false, cs)

def digitRun (cs : List Char) : List Char × List Char :=
  (cs.takeWhile Char.isDigit, cs.dropWhile Char.isDigit)

/-- The power of ten that ends a numeral: nothing, or a marker and a signed integer. -/
def readExponent? : List Char → Option Int
  | [] => some 0
  | c :: cs =>
    if c = 'e' ∨ c = 'E' then
      let (negative, digits) := splitSign cs
      if digits.isEmpty || !digits.all Char.isDigit then none
      else
        let n : Int := Nat.ofDigitChars 10 digits 0
        some (if negative then -n else n)
    else none

def read? (cs : List Char) : Option Numeral :=
  let (negative, cs) := splitSign cs
  let (whole, cs) := digitRun cs
  let (fraction, cs) :=
    match cs with
    | '.' :: cs => digitRun cs
    | _ => ([], cs)
  if whole.isEmpty && fraction.isEmpty then none
  else
    (readExponent? cs).map fun e =>
      ⟨negative, Nat.ofDigitChars 10 (whole ++ fraction) 0, e - fraction.length⟩

end TextTemplate.Numeral
