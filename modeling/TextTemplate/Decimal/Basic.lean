import TextTemplate.Decimal.Rounding

/-!
Decimal numbers and the two ways of writing them: with the point in its place, or with one digit
before the point and a power of ten behind.
-/
namespace TextTemplate

/-- The number `digits · 10 ^ exponent`. -/
structure Decimal where
  digits : Nat
  exponent : Int
deriving DecidableEq, Repr

namespace Decimal

/-- The digits of `n`, filled up with zeros in front to at least `width` of them. -/
def padded (width n : Nat) : List Char :=
  let digits := Nat.toDigits 10 n
  List.replicate (width - digits.length) '0' ++ digits

/-- The number `n / 10 ^ places`, written with exactly that many decimal places. -/
def withPlaces (n places : Nat) : List Char :=
  if places = 0 then Nat.toDigits 10 n
  else Nat.toDigits 10 (n / 10 ^ places) ++ '.' :: padded places (n % 10 ^ places)

def positional (d : Decimal) : List Char :=
  match d.exponent with
  | .ofNat e => Nat.toDigits 10 (d.digits * 10 ^ e)
  | .negSucc p => withPlaces d.digits (p + 1)

/-- An exponent with its sign, which is always written. -/
def signedExponent (e : Int) : List Char :=
  (if e < 0 then '-' else '+') :: Nat.toDigits 10 e.natAbs

/-- The first digit, the others after a point, and the power of ten of the first. -/
def scientificDigits (marker : Char) (digits : List Char) (exponent : Int) : List Char :=
  let tail := if digits.length ≤ 1 then [] else '.' :: digits.drop 1
  digits.take 1 ++ tail ++ marker :: signedExponent exponent

def scientific (marker : Char) (d : Decimal) : List Char :=
  let digits := Nat.toDigits 10 d.digits
  scientificDigits marker digits (d.exponent + digits.length - 1)

/-- The exponent of the first digit of `num / den`, for a positive quotient. -/
def leadingExponent (num den : Nat) : Int :=
  if den ≤ num then (Nat.toDigits 10 (num / den)).length - 1
  else -(Nat.toDigits 10 ((den + num - 1) / num - 1)).length

/-- Numerator and denominator of `num / den / 10 ^ exponent`. -/
def scaled (num den : Nat) : Int → Nat × Nat
  | .ofNat e => (num, den * 10 ^ e)
  | .negSucc p => (num * 10 ^ (p + 1), den)

/-- `m · 10 ^ exponent` for `m ≤ 10 ^ count`, kept to `count` digits. -/
def ofCount (count m : Nat) (exponent : Int) : Decimal :=
  if m = 10 ^ count then ⟨10 ^ (count - 1), exponent + 1⟩ else ⟨m, exponent⟩

/-- A positive `num / den` rounded half to even to `count` significant digits. -/
def significant (count num den : Nat) : Decimal :=
  let exponent := leadingExponent num den - (count - 1 : Nat)
  let (a, b) := scaled num den exponent
  ofCount count (roundHalfEven a b) exponent

/-- `num / den` rounded half to even and written with `places` decimal places. -/
def fixed (places num den : Nat) : List Char :=
  withPlaces (roundHalfEven (num * 10 ^ places) den) places

end TextTemplate.Decimal
