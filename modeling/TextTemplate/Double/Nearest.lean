import TextTemplate.Decimal.Numeral
import TextTemplate.Double.Basic

/-!
The double nearest to an exact number. Ties go to the even significand, and what rounds beyond
the greatest finite double is infinite.
-/
namespace TextTemplate

namespace Magnitude

/-- The magnitude nearest to `num / den` units, `none` beyond the greatest. -/
def nearest? (num den : Nat) : Option Magnitude :=
  let scale := (num / den).log2 + 1 - 53
  let significand := Decimal.roundHalfEven num (den * 2 ^ scale)
  if significand = 2 ^ 53 then ofParts? (2 ^ 52) (scale + 1) else ofParts? significand scale

/-- The magnitude nearest to a decimal number. Exponents far out of range are settled without
computing the power of ten. -/
def ofDecimal? (d : Decimal) : Option Magnitude :=
  if d.digits = 0 then some zero
  else
    let leading := d.exponent + (Nat.toDigits 10 d.digits).length - 1
    if 400 < leading then none
    else if leading < -400 then some zero
    else
      match d.exponent with
      | .ofNat e => nearest? (d.digits * 10 ^ e * one) 1
      | .negSucc p => nearest? (d.digits * one) (10 ^ (p + 1))

end Magnitude

namespace Double

def ofMagnitude (negative : Bool) : Option Magnitude → Double
  | some m => finite negative m
  | none => infinite negative

def ofNumeral (n : Numeral) : Double :=
  ofMagnitude n.negative (Magnitude.ofDecimal? n.magnitude)

/-- The number that a numeral denotes. -/
def ofText? (cs : List Char) : Option Double :=
  (Numeral.read? cs).map ofNumeral

def ofNat (n : Nat) : Double :=
  ofMagnitude false (Magnitude.nearest? (n * Magnitude.one) 1)

def ofInt (n : Int) : Double :=
  ofMagnitude (n < 0) (Magnitude.nearest? (n.natAbs * Magnitude.one) 1)

/-- The number whose IEEE 754 single-precision word is `word`. -/
def ofSingleBits (word : Nat) : Double :=
  let negative := word / 2 ^ 31 % 2 == 1
  let exponent := word / 2 ^ 23 % 256
  let fraction := word % 2 ^ 23
  if exponent = 255 then
    if fraction = 0 then infinite negative else nan
  else
    let significand := if exponent = 0 then fraction else 2 ^ 23 + fraction
    ofMagnitude negative (Magnitude.nearest? (significand * 2 ^ (exponent - 1 + 925)) 1)

/-- A hundred times the number, rounded to a double again. -/
def timesHundred : Double → Double
  | finite negative m => ofMagnitude negative (Magnitude.nearest? (m.units * 100) 1)
  | x => x

end TextTemplate.Double
