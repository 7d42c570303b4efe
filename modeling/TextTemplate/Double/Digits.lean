import TextTemplate.Double.Nearest

/-!
Decimal digits of doubles. Rounding to a number of places or digits is done on the exact value;
the shortest form has the fewest digits that read back as the same double, and is the closest to
it among those.
-/
namespace TextTemplate.Magnitude

/-- The exact value rounded half to even to `places` decimal places. -/
def fixed (m : Magnitude) (places : Nat) : List Char :=
  Decimal.fixed places m.units one

/-- A positive magnitude rounded half to even to `count` significant digits. -/
def significant (m : Magnitude) (count : Nat) : Decimal :=
  Decimal.significant count m.units one

/-- The exact value as a decimal number. -/
def exact (m : Magnitude) : Decimal :=
  ⟨m.units * 5 ^ 1074, -1074⟩

/-- Whether a decimal number reads back as `m`. -/
def reads (m : Magnitude) (d : Decimal) : Bool :=
  ofDecimal? d == some m

/-- The decimal number of `count` digits closest to `m` that reads back as `m`, the greater one
of two that are equally close. -/
def closest? (m : Magnitude) (count : Nat) : Option Decimal :=
  let exponent := Decimal.leadingExponent m.units one - (count - 1 : Nat)
  let (a, b) := Decimal.scaled m.units one exponent
  let below := Decimal.ofCount count (a / b) exponent
  let above := Decimal.ofCount count (a / b + 1) exponent
  match m.reads below, m.reads above with
  | true, true => some (if 2 * (a % b) < b then below else above)
  | true, false => some below
  | false, true => some above
  | false, false => none

/-- The shortest decimal number that reads back as a positive `m`. -/
def shortest (m : Magnitude) : Decimal :=
  if m.isZero then ⟨0, 0⟩
  else ((List.range' 1 17).findSome? m.closest?).getD m.exact

end TextTemplate.Magnitude
