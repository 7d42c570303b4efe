import Mathlib.Algebra.Order.Round
import Mathlib.Data.Rat.Floor
import Mathlib.Tactic.FieldSimp
import Mathlib.Tactic.GCongr
import Mathlib.Tactic.Linarith
import Mathlib.Tactic.NormNum
import Mathlib.Tactic.Positivity
import Mathlib.Tactic.Ring
import TextTemplate.Double.Digits

/-!
What rounding means. Magnitudes and decimal numbers are rational numbers, a quotient is rounded to
one of the two integers around it, and a positive number is rounded to a count of significant
digits at the place where its own last digit of that count stands.
-/
namespace TextTemplate

/-- The number of ones in a magnitude. -/
def Magnitude.value (m : Magnitude) : ℚ := m.units / Magnitude.one

namespace Decimal

def value (d : Decimal) : ℚ := d.digits * 10 ^ d.exponent

/-- `n` is an integer nearest to `x`, and the even one of two. -/
structure NearestEven (x : ℚ) (n : ℕ) : Prop where
  near : |x - n| ≤ 1 / 2
  tie : |x - n| = 1 / 2 → Even n

theorem NearestEven.unique {x : ℚ} {n n' : ℕ} (h : NearestEven x n) (h' : NearestEven x n') :
    n = n' := by
  wlog hle : n ≤ n' generalizing n n'
  · exact (this h' h (Nat.le_of_not_le hle)).symm
  have hn := abs_le.1 h.near
  have hn' := abs_le.1 h'.near
  by_contra hne
  have hlt : n + 1 ≤ n' := Nat.lt_of_le_of_ne hle hne
  have hstep : (n : ℚ) + 1 ≤ n' := by exact_mod_cast hlt
  -- Two nearest integers have `x` in their middle, and only one of them is even.
  have hnext : n' = n + 1 := by
    have hup : (n' : ℚ) ≤ n + 1 := by linarith
    have hup' : n' ≤ n + 1 := by exact_mod_cast hup
    omega
  have hmiddle : x = n + 1 / 2 := by
    rw [hnext, Nat.cast_add, Nat.cast_one] at hn'
    linarith
  have heven := h.tie (by rw [hmiddle]; norm_num)
  have heven' := h'.tie (by rw [hmiddle, hnext]; norm_num)
  rw [hnext, Nat.even_add_one] at heven'
  exact heven' heven

/-- A quotient is its whole part and a rest below one. -/
theorem div_eq_floor_add (num : ℕ) {den : ℕ} (h : 0 < den) :
    (num : ℚ) / den = (num / den : ℕ) + ((num % den : ℕ) : ℚ) / den := by
  have hden : (0 : ℚ) < den := by exact_mod_cast h
  have hsum : (num : ℚ) = den * (num / den : ℕ) + (num % den : ℕ) := by
    exact_mod_cast (Nat.div_add_mod num den).symm
  field_simp
  linarith

theorem twice_lt_iff (rest : ℕ) {den : ℕ} (h : 0 < den) :
    (2 * rest < den ↔ (rest : ℚ) / den < 1 / 2) ∧ (den < 2 * rest ↔ 1 / 2 < (rest : ℚ) / den) := by
  have hden : (0 : ℚ) < den := by exact_mod_cast h
  rw [div_lt_div_iff₀ hden (by norm_num), div_lt_div_iff₀ (by norm_num) hden]
  constructor <;> norm_cast <;> omega

theorem nearestEven_roundHalfEven (num : ℕ) {den : ℕ} (h : 0 < den) :
    NearestEven (num / den) (roundHalfEven num den) := by
  have hden : (0 : ℚ) < den := by exact_mod_cast h
  have hrest : (0 : ℚ) ≤ ((num % den : ℕ) : ℚ) / den := by positivity
  have hbelow : ((num % den : ℕ) : ℚ) / den < 1 := by
    rw [div_lt_one hden]
    exact_mod_cast Nat.mod_lt num h
  obtain ⟨hdown, hup⟩ := twice_lt_iff (num % den) h
  rw [div_eq_floor_add num h]
  simp only [roundHalfEven, hdown, hup]
  generalize num / den = floor
  generalize ((num % den : ℕ) : ℚ) / den = rest at *
  split
  · have habs : |(floor : ℚ) + rest - floor| = rest := by
      rw [add_sub_cancel_left, abs_of_nonneg hrest]
    refine ⟨by linarith, fun htie => absurd htie ?_⟩
    rw [habs]
    exact ne_of_lt ‹_›
  · split
    · have habs : |(floor : ℚ) + rest - (floor + 1 : ℕ)| = 1 - rest := by
        rw [Nat.cast_add, Nat.cast_one, add_sub_add_left_eq_sub, abs_sub_comm,
          abs_of_nonneg (by linarith)]
      refine ⟨by linarith, fun htie => absurd htie ?_⟩
      rw [habs]
      exact ne_of_lt (by linarith)
    · -- The rest is a half, so both neighbours are equally near.
      have hhalf : rest = 1 / 2 := le_antisymm (not_lt.1 ‹_›) (not_lt.1 ‹_›)
      have hbit : floor % 2 = 0 ∨ floor % 2 = 1 := Nat.mod_two_eq_zero_or_one floor
      refine ⟨?_, fun _ => Nat.even_iff.2 (by omega)⟩
      cases hbit with
      | inl hbit => rw [hbit, hhalf]; norm_num
      | inr hbit => rw [hbit, hhalf]; norm_num

/-! The exponent of the first digit is found by counting digits, of the quotient or of the integer
below its inverse. -/

theorem pow_length_toDigits {n : ℕ} (hn : n ≠ 0) :
    10 ^ ((Nat.toDigits 10 n).length - 1) ≤ n ∧ n < 10 ^ (Nat.toDigits 10 n).length := by
  have hpos : 0 < (Nat.toDigits 10 n).length := List.length_pos_of_ne_nil Nat.toDigits_ne_nil
  refine ⟨?_, (Nat.length_toDigits_le_iff (by decide) hpos).1 le_rfl⟩
  by_contra hlt
  have hone : (Nat.toDigits 10 n).length - 1 ≠ 0 := by
    intro hzero
    rw [hzero, Nat.pow_zero] at hlt
    omega
  have hshort := (Nat.length_toDigits_le_iff (by decide) (Nat.pos_of_ne_zero hone)).2
    (Nat.lt_of_not_le hlt)
  omega

theorem leadingExponent_bounds {num den : ℕ} (hnum : 0 < num) (hden : 0 < den) :
    (10 : ℚ) ^ leadingExponent num den ≤ num / den ∧
      (num : ℚ) / den < 10 ^ (leadingExponent num den + 1) := by
  have hnum' : (0 : ℚ) < num := by exact_mod_cast hnum
  have hden' : (0 : ℚ) < den := by exact_mod_cast hden
  rw [leadingExponent]
  split
  · rename_i hle
    have hpos : 0 < (Nat.toDigits 10 (num / den)).length :=
      List.length_pos_of_ne_nil Nat.toDigits_ne_nil
    obtain ⟨hlow, hhigh⟩ := pow_length_toDigits (Nat.ne_of_gt (Nat.div_pos hle hden))
    generalize (Nat.toDigits 10 (num / den)).length = length at *
    have hexponent : (length : ℤ) - 1 = (length - 1 : ℕ) := by omega
    rw [sub_add_cancel, hexponent, zpow_natCast, zpow_natCast, le_div_iff₀ hden',
      div_lt_iff₀ hden']
    constructor
    · exact_mod_cast (Nat.le_div_iff_mul_le hden).1 hlow
    · exact_mod_cast (Nat.div_lt_iff_lt_mul hden).1 hhigh
  · rename_i hlt
    have hbelow : (den + num - 1) / num - 1 = (den - 1) / num := by
      rw [show den + num - 1 = den - 1 + num by omega, Nat.add_div_right _ hnum,
        Nat.add_sub_cancel]
    rw [hbelow]
    have hpos : 0 < (Nat.toDigits 10 ((den - 1) / num)).length :=
      List.length_pos_of_ne_nil Nat.toDigits_ne_nil
    obtain ⟨hlow, hhigh⟩ :=
      pow_length_toDigits (Nat.ne_of_gt (Nat.div_pos (show num ≤ den - 1 by omega) hnum))
    generalize (Nat.toDigits 10 ((den - 1) / num)).length = length at *
    rw [Nat.le_div_iff_mul_le hnum] at hlow
    rw [Nat.div_lt_iff_lt_mul hnum] at hhigh
    have hexponent : -(length : ℤ) + 1 = -(length - 1 : ℕ) := by omega
    rw [hexponent, zpow_neg, zpow_neg, zpow_natCast, zpow_natCast, le_div_iff₀ hden',
      div_lt_iff₀ hden', inv_mul_le_iff₀ (by positivity), lt_inv_mul_iff₀ (by positivity)]
    constructor
    · exact_mod_cast (show den ≤ 10 ^ length * num by omega)
    · exact_mod_cast (show 10 ^ (length - 1) * num < den by omega)

theorem scaled_value (num : ℕ) {den : ℕ} (h : 0 < den) (exponent : ℤ) :
    0 < (scaled num den exponent).2 ∧
      ((scaled num den exponent).1 : ℚ) / (scaled num den exponent).2 =
        num / den / 10 ^ exponent := by
  cases exponent with
  | ofNat e =>
      refine ⟨Nat.mul_pos h (Nat.pow_pos (by decide)), ?_⟩
      simp only [scaled, Int.ofNat_eq_natCast, zpow_natCast, Nat.cast_mul, Nat.cast_pow,
        Nat.cast_ofNat, div_div]
  | negSucc p =>
      refine ⟨h, ?_⟩
      simp only [scaled, zpow_negSucc, Nat.cast_mul, Nat.cast_pow, Nat.cast_ofNat, div_inv_eq_mul]
      ring

/-- `r` is the positive `x` rounded half to even to `count` significant digits: a multiple of what
the last of the first `count` digits of `x` counts. -/
def RoundsTo (count : ℕ) (x r : ℚ) : Prop :=
  ∃ (leading : ℤ) (n : ℕ), (10 : ℚ) ^ leading ≤ x ∧ x < 10 ^ (leading + 1) ∧
    NearestEven (x / 10 ^ (leading + 1 - count)) n ∧ r = n * 10 ^ (leading + 1 - count)

theorem leading_unique {x : ℚ} {leading leading' : ℤ} (h : (10 : ℚ) ^ leading ≤ x)
    (h' : x < 10 ^ (leading' + 1)) : leading ≤ leading' := by
  have hlt := (zpow_lt_zpow_iff_right₀ (by norm_num : (1 : ℚ) < 10)).1 (lt_of_le_of_lt h h')
  omega

theorem RoundsTo.unique {count : ℕ} {x r r' : ℚ} (h : RoundsTo count x r)
    (h' : RoundsTo count x r') : r = r' := by
  obtain ⟨leading, n, hlow, hhigh, hn, rfl⟩ := h
  obtain ⟨leading', n', hlow', hhigh', hn', rfl⟩ := h'
  obtain rfl : leading = leading' :=
    le_antisymm (leading_unique hlow hhigh') (leading_unique hlow' hhigh)
  rw [hn.unique hn']

theorem NearestEven.bounds {y : ℚ} {n low high : ℕ} (h : NearestEven y n) (hlow : low ≤ y)
    (hhigh : y < high) : low ≤ n ∧ n ≤ high := by
  have hnear := abs_le.1 h.near
  constructor
  · have hlt : (low : ℚ) < (n + 1 : ℕ) := by
      push_cast
      linarith
    exact Nat.lt_succ_iff.1 (by exact_mod_cast hlt)
  · have hlt : (n : ℚ) < (high + 1 : ℕ) := by
      push_cast
      linarith
    exact Nat.lt_succ_iff.1 (by exact_mod_cast hlt)

/-- `d` has `count` digits and is `x` rounded to that many, and rounding `x` at the last place of
`d` gives `d` again, also where rounding carried into a new digit. -/
structure Rounds (count : ℕ) (x : ℚ) (d : Decimal) : Prop where
  digits_ge : 10 ^ (count - 1) ≤ d.digits
  digits_lt : d.digits < 10 ^ count
  roundsTo : RoundsTo count x d.value
  nearest : NearestEven (x / 10 ^ d.exponent) d.digits

theorem rounds_ofCount {count n : ℕ} {x : ℚ} {leading exponent : ℤ} (hcount : 0 < count)
    (hlow : (10 : ℚ) ^ leading ≤ x) (hhigh : x < 10 ^ (leading + 1))
    (hexponent : exponent = leading - (count - 1 : ℕ))
    (hn : NearestEven (x / 10 ^ exponent) n) : Rounds count x (ofCount count n exponent) := by
  have hlast : leading + 1 - count = exponent := by omega
  have hpos : (0 : ℚ) < 10 ^ exponent := zpow_pos (by norm_num) _
  have hscaled : (10 ^ (count - 1) : ℕ) ≤ x / 10 ^ exponent ∧
      x / 10 ^ exponent < (10 ^ count : ℕ) := by
    rw [le_div_iff₀ hpos, div_lt_iff₀ hpos, Nat.cast_pow, Nat.cast_pow, Nat.cast_ofNat,
      ← zpow_natCast, ← zpow_natCast, ← zpow_add₀ (by norm_num), ← zpow_add₀ (by norm_num)]
    constructor
    · rwa [show ((count - 1 : ℕ) : ℤ) + exponent = leading by omega]
    · rwa [show (count : ℤ) + exponent = leading + 1 by omega]
  obtain ⟨hge, hle⟩ := hn.bounds hscaled.1 hscaled.2
  have hroundsTo : RoundsTo count x (n * 10 ^ exponent) :=
    ⟨leading, n, hlow, hhigh, by rwa [hlast], by rw [hlast]⟩
  have hcarried : (10 : ℕ) ^ count = 10 ^ (count - 1) * 10 := by
    rw [← Nat.pow_succ, Nat.succ_eq_add_one, Nat.sub_add_cancel hcount]
  rw [ofCount]
  split
  · rename_i hcarry
    have hten : x / 10 ^ (exponent + 1) = x / 10 ^ exponent / 10 := by
      rw [zpow_add_one₀ (by norm_num), div_div]
    have hnear := abs_le.1 hn.near
    have hdigits : (n : ℚ) = (10 ^ (count - 1) : ℕ) * 10 := by
      rw [hcarry, hcarried]
      push_cast
      ring
    have hclose : |x / 10 ^ (exponent + 1) - (10 ^ (count - 1) : ℕ)| < 1 / 2 := by
      rw [hten, abs_lt]
      constructor <;> linarith
    refine ⟨le_rfl, ?_, ?_, hclose.le, fun htie => absurd htie hclose.ne⟩
    · exact Nat.pow_lt_pow_right (by decide) (Nat.sub_lt hcount Nat.one_pos)
    · rw [value, zpow_add_one₀ (by norm_num)]
      rw [hdigits] at hroundsTo
      convert hroundsTo using 1
      push_cast
      ring
  · rename_i hcarry
    exact ⟨hge, Nat.lt_of_le_of_ne hle hcarry, hroundsTo, hn⟩

theorem rounds_significant {count num den : ℕ} (hcount : 0 < count) (hnum : 0 < num)
    (hden : 0 < den) : Rounds count (num / den) (significant count num den) := by
  obtain ⟨hlow, hhigh⟩ := leadingExponent_bounds hnum hden
  obtain ⟨hpos, hscaled⟩ :=
    scaled_value num hden (leadingExponent num den - (count - 1 : ℕ))
  refine rounds_ofCount hcount hlow hhigh rfl ?_
  rw [← hscaled]
  exact nearestEven_roundHalfEven _ hpos

end Decimal
end TextTemplate
