/-!
Rounding a quotient of natural numbers to an integer. All arithmetic on decimal numbers and
doubles is arithmetic of natural numbers, and its powers are the built-in ones.
-/
namespace TextTemplate

/-- The built-in power, ahead of any instance that a library brings. -/
@[default_instance 10100]
instance (priority := high) naturalPower : Pow Nat Nat := instPowNat

namespace Decimal

/-- The integer nearest to `num / den`; a half goes to the even neighbour. -/
def roundHalfEven (num den : Nat) : Nat :=
  let floor := num / den
  let twice := 2 * (num % den)
  if twice < den then floor
  else if den < twice then floor + 1
  else floor + floor % 2

/-- The integer nearest to `num / den`; a half goes up. -/
def roundHalfUp (num den : Nat) : Nat :=
  (2 * num + den) / (2 * den)

end Decimal

end TextTemplate
