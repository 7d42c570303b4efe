import TextTemplate.Decimal.Rounding

/-!
Double-precision numbers, exactly. A finite number is a sign and a magnitude, and a magnitude is
a whole number of units of `2 ^ -1074`, the least positive double. All arithmetic on them is
therefore arithmetic of natural numbers.
-/
namespace TextTemplate

/-- The magnitude `significand · 2 ^ scale` units, in its one normal form. -/
structure Magnitude where
  significand : Nat
  scale : Nat
  significand_lt : significand < 2 ^ 53
  scale_le : scale ≤ 2045
  normal : scale = 0 ∨ 2 ^ 52 ≤ significand
deriving DecidableEq, Repr

inductive Double where
  | nan
  | infinite (negative : Bool)
  | finite (negative : Bool) (magnitude : Magnitude)
deriving DecidableEq, Repr

namespace Magnitude

/-- How many units make one. -/
def one : Nat := 2 ^ 1074

theorem one_pos : 0 < one := by decide +kernel

def units (m : Magnitude) : Nat := m.significand * 2 ^ m.scale

def zero : Magnitude := ⟨0, 0, by decide, by decide, .inl rfl⟩

instance : Inhabited Magnitude := ⟨zero⟩

/-- The magnitude with these two parts, if they are in normal form and in range. -/
def ofParts? (significand scale : Nat) : Option Magnitude :=
  if h : significand < 2 ^ 53 ∧ scale ≤ 2045 ∧ (scale = 0 ∨ 2 ^ 52 ≤ significand) then
    some ⟨significand, scale, h.1, h.2.1, h.2.2⟩
  else none

def isZero (m : Magnitude) : Bool := m.significand == 0

/-- Whether the magnitude is a whole number. -/
def isWhole (m : Magnitude) : Bool := m.units % one == 0

/-- The whole part. -/
def floor (m : Magnitude) : Nat := m.units / one

end Magnitude

namespace Double

def zero : Double := finite false .zero

def isNaN : Double → Bool
  | nan => true
  | _ => false

def isFinite : Double → Bool
  | finite .. => true
  | _ => false

/-- Whether the number is less than zero, which neither zero is. -/
def isNegative : Double → Bool
  | nan => false
  | infinite negative => negative
  | finite negative m => negative && !m.isZero

/-- The number whose IEEE 754 double-precision word is `word`. -/
def ofBits (word : Nat) : Double :=
  let negative := word / 2 ^ 63 % 2 == 1
  let exponent := word / 2 ^ 52 % 2048
  let fraction := word % 2 ^ 52
  if exponent = 2047 then
    if fraction = 0 then infinite negative else nan
  else
    let parts := if exponent = 0 then (fraction, 0) else (2 ^ 52 + fraction, exponent - 1)
    finite negative ((Magnitude.ofParts? parts.1 parts.2).getD .zero)

/-- The IEEE 754 double-precision word of a number; every NaN has the quiet one. -/
def toBits : Double → Nat
  | nan => 0x7FF8000000000000
  | infinite negative => negative.toNat * 2 ^ 63 + 2047 * 2 ^ 52
  | finite negative m =>
    let biased :=
      if m.significand < 2 ^ 52 then m.significand
      else (m.scale + 1) * 2 ^ 52 + (m.significand - 2 ^ 52)
    negative.toNat * 2 ^ 63 + biased

end TextTemplate.Double
