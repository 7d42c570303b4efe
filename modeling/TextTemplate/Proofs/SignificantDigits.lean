import TextTemplate.Proofs.DecimalRounding
import TextTemplate.Proofs.NumberPatternGrammar
import TextTemplate.Proofs.NumeralLayout

/-!
Significant digits. A number that is written with a count of significant digits is rounded once:
its exponent is that of the rounded number, and where the point stands among the digits, rounding
at the last decimal place gives the same digits again, also if they carried into a new one.
-/
namespace TextTemplate
open Decimal Mantissa

namespace Decimal

theorem Rounds.value_bounds {count : ℕ} {x : ℚ} {d : Decimal} (hcount : 0 < count)
    (h : Rounds count x d) :
    (10 : ℚ) ^ (d.exponent + (count - 1 : ℕ)) ≤ d.value ∧
      d.value < 10 ^ (d.exponent + (count - 1 : ℕ) + 1) := by
  have hpos : (0 : ℚ) < 10 ^ d.exponent := zpow_pos (by norm_num) _
  have hge : (10 : ℚ) ^ (count - 1) ≤ d.digits := by exact_mod_cast h.digits_ge
  have hlt : (d.digits : ℚ) < 10 ^ count := by exact_mod_cast h.digits_lt
  have hsum : d.exponent + (count - 1 : ℕ) + 1 = d.exponent + count := by omega
  rw [value, hsum, zpow_add₀ (by norm_num), zpow_add₀ (by norm_num), zpow_natCast, zpow_natCast,
    mul_comm _ ((10 : ℚ) ^ d.exponent)]
  exact ⟨mul_le_mul_of_nonneg_left hge hpos.le, mul_lt_mul_of_pos_left hlt hpos⟩

/-- With its point behind that many places, the number has the digits that it was rounded to. -/
theorem Rounds.fixed {count num den places : ℕ} (hden : 0 < den) {d : Decimal}
    (h : Rounds count (num / den) d) (hplaces : d.exponent = -places) :
    Decimal.fixed places num den = withPlaces d.digits places := by
  have hscaled : ((num * 10 ^ places : ℕ) : ℚ) / den = num / den / 10 ^ d.exponent := by
    rw [hplaces, zpow_neg, zpow_natCast, div_inv_eq_mul]
    push_cast
    ring
  have hround := nearestEven_roundHalfEven (num * 10 ^ places) hden
  rw [hscaled] at hround
  rw [Decimal.fixed, hround.unique h.nearest]

end Decimal

/-- The digits of the mantissa, without its point. -/
def Mantissa.digits (a : Mantissa) : List Char := a.whole ++ a.fraction

namespace Numeral

/-- A mantissa reads as the number of its digits, shifted by the length of its fraction and by the
exponent behind it. -/
theorem read?_mantissa (negative : Bool) {a : Mantissa} (ha : a.IsDecimal) {suffix : List Char}
    {e : ℤ} (he : readExponent? suffix = some e) :
    read? (sign negative ++ (a.chars ++ suffix)) =
      some ⟨negative, ⟨Nat.ofDigitChars 10 a.digits 0, e - a.fraction.length⟩⟩ := by
  rw [Mantissa.chars, Mantissa.digits, List.append_assoc]
  cases hfraction : a.fraction with
  | nil =>
      rw [List.append_nil, List.length_nil, Nat.cast_zero, sub_zero]
      exact read?_whole negative ha.whole_ne_nil ha.whole he
  | cons d ds =>
      have hdigits := ha.fraction
      rw [hfraction] at hdigits
      exact read?_point negative ha.whole_ne_nil ha.whole hdigits he

theorem readExponent?_signedExponent {marker : Char} (h : marker = 'e' ∨ marker = 'E') (e : ℤ) :
    readExponent? (marker :: signedExponent e) = some e := by
  have hdigits : (Nat.toDigits 10 e.natAbs).all Char.isDigit = true :=
    List.all_eq_true.2 fun _ hc => isDigit_of_mem_toDigits hc
  rw [readExponent?, if_pos h, signedExponent]
  by_cases hneg : e < 0
  · simp [hneg, splitSign, hdigits, abs_of_neg hneg]
  · simp [hneg, splitSign, hdigits, abs_of_nonneg (not_lt.1 hneg)]

/-- The text is that of a number without a sign, namely of `x`. -/
def Denotes (cs : List Char) (x : ℚ) : Prop :=
  ∃ numeral, read? cs = some numeral ∧ numeral.negative = false ∧ numeral.magnitude.value = x

theorem ofDigitChars_ofPlaces (n places : ℕ) :
    Nat.ofDigitChars 10 (ofPlaces n places).digits 0 = n := by
  by_cases hzero : places = 0
  · simp [Mantissa.digits, ofPlaces, hzero]
  · rw [Mantissa.digits, ofPlaces, if_neg hzero]
    exact ofDigitChars_places n (Nat.pos_of_ne_zero hzero)

theorem length_fraction_ofPlaces (n places : ℕ) :
    (ofPlaces n places).fraction.length = places := by
  by_cases hzero : places = 0
  · simp [ofPlaces, hzero]
  · have hlt : n % 10 ^ places < 10 ^ places := Nat.mod_lt _ (Nat.pow_pos (by decide))
    simp [ofPlaces, hzero, length_padded (Nat.pos_of_ne_zero hzero) hlt]

end Numeral

namespace NumberPattern

/-- The digits of the mantissa from the first one on that is not zero. -/
def significantDigits (cs : List Char) : List Char :=
  ((cs.takeWhile fun c => !isSuffixStart c).filter Char.isDigit).dropWhile (· == '0')

theorem significantDigits_mantissa {a : Mantissa} (ha : a.IsDecimal) {suffix : List Char}
    (hsuffix : StartsSuffix suffix) {n : ℕ} (hn : n ≠ 0)
    (hdigits : Nat.ofDigitChars 10 a.digits 0 = n) :
    significantDigits (a.chars ++ suffix) = Nat.toDigits 10 n := by
  have hall : ∀ c ∈ a.digits, c.isDigit = true := by
    intro c hc
    exact (List.mem_append.1 hc).elim (ha.whole c) (ha.fraction c)
  have hfilter : a.chars.filter Char.isDigit = a.digits := by
    have hpointed : (pointed a.fraction).filter Char.isDigit = a.fraction := by
      cases hfraction : a.fraction with
      | nil => rfl
      | cons d ds =>
          rw [pointed, List.filter_cons_of_neg (by decide), ← hfraction, List.filter_eq_self]
          exact ha.fraction
    rw [Mantissa.chars, Mantissa.digits, List.filter_append, List.filter_eq_self.2 ha.whole,
      hpointed]
  have hne : a.digits ≠ [] := by simp [Mantissa.digits, ha.whole_ne_nil]
  obtain ⟨zeros, hzeros⟩ := exists_eq_replicate_append_toDigits hne hall
  have hstop : ∀ c ∈ (Nat.toDigits 10 n).head?, (c == '0') = false := by
    intro c hc
    rw [beq_eq_false_iff_ne]
    rintro rfl
    exact head_toDigits_ne_zero hn hc
  have hfront : ∀ c ∈ List.replicate zeros '0', (c == '0') = true := by
    intro c hc
    rw [List.eq_of_mem_replicate hc]
    rfl
  rw [hdigits] at hzeros
  rw [significantDigits, (split_suffix (fun _ hc => not_isSuffixStart_of_mem ha hc) hsuffix).1,
    hfilter, hzeros]
  exact (takeWhile_append_stop hfront hstop).2

theorem length_toDigits_eq {count n : ℕ} (hcount : 0 < count) (hge : 10 ^ (count - 1) ≤ n)
    (hlt : n < 10 ^ count) : (Nat.toDigits 10 n).length = count := by
  have hle := (Nat.length_toDigits_le_iff (show 1 < 10 by decide) hcount).2 hlt
  obtain ⟨-, hhigh⟩ :=
    pow_length_toDigits (Nat.ne_of_gt (Nat.lt_of_lt_of_le (Nat.pow_pos (by decide)) hge))
  have hpow := (Nat.pow_lt_pow_iff_right (show 1 < 10 by decide)).1 (Nat.lt_of_le_of_lt hge hhigh)
  omega

/-- How a rounded number is shown: in digits that read as it, as many as it was rounded to. -/
theorem shows_rounded {count : ℕ} {x : ℚ} {d : Decimal} (hcount : 0 < count)
    (h : Rounds count x d) {a : Mantissa} (ha : a.IsDecimal) {suffix : List Char}
    (hsuffix : StartsSuffix suffix) {e : ℤ} (he : Numeral.readExponent? suffix = some e)
    (hdigits : Nat.ofDigitChars 10 a.digits 0 = d.digits)
    (hexponent : e - a.fraction.length = d.exponent) :
    Numeral.Denotes (a.chars ++ suffix) d.value ∧
      (significantDigits (a.chars ++ suffix)).length = count := by
  have hpos : d.digits ≠ 0 :=
    Nat.ne_of_gt (Nat.lt_of_lt_of_le (Nat.pow_pos (by decide)) h.digits_ge)
  constructor
  · refine ⟨_, Numeral.read?_mantissa false ha he, rfl, ?_⟩
    rw [hdigits, hexponent]
  · rw [significantDigits_mantissa ha hsuffix hpos hdigits]
    exact length_toDigits_eq hcount h.digits_ge h.digits_lt

/-- With an exponent, which is that of the first digit, one digit stands in front of the point. -/
theorem shows_rounded_scientific {count : ℕ} {x : ℚ} {d : Decimal} (hcount : 0 < count)
    (h : Rounds count x d) :
    let shown := d.scientific 'e'
    Numeral.Denotes shown d.value ∧ (significantDigits shown).length = count ∧
      ∃ a : Mantissa, a.IsDecimal ∧ a.whole.length = 1 ∧
        shown = a.chars ++ 'e' :: signedExponent (d.exponent + (count - 1 : ℕ)) := by
  intro shown
  have hlength := length_toDigits_eq hcount h.digits_ge h.digits_lt
  have hleading : d.exponent + (Nat.toDigits 10 d.digits).length - 1 =
      d.exponent + (count - 1 : ℕ) := by omega
  have hshown : shown = (ofDigits (Nat.toDigits 10 d.digits)).chars ++
      'e' :: signedExponent (d.exponent + (count - 1 : ℕ)) := by
    rw [chars_ofDigits, ← hleading]
    rfl
  have ha := isDecimal_ofDigits (Nat.toDigits_ne_nil (b := 10) (n := d.digits))
    fun c hc => isDigit_of_mem_toDigits hc
  have hdigits :
      Nat.ofDigitChars 10 (ofDigits (Nat.toDigits 10 d.digits)).digits 0 = d.digits := by
    rw [Mantissa.digits, ofDigits, List.take_append_drop, Nat.ofDigitChars_ten_toDigits]
  have hexponent : d.exponent + (count - 1 : ℕ) -
      (ofDigits (Nat.toDigits 10 d.digits)).fraction.length = d.exponent := by
    rw [ofDigits, List.length_drop, hlength]
    omega
  obtain ⟨hdenotes, hsignificant⟩ := shows_rounded hcount h ha (startsSuffix_cons rfl _)
    (Numeral.readExponent?_signedExponent (.inl rfl) _) hdigits hexponent
  rw [← hshown] at hdenotes hsignificant
  refine ⟨hdenotes, hsignificant, _, ha, ?_, hshown⟩
  rw [ofDigits, List.length_take, hlength]
  omega

/-- Without an exponent, the places behind the point are those down to the last digit. -/
theorem shows_rounded_fixed {count num den places : ℕ} {d : Decimal} (hcount : 0 < count)
    (hden : 0 < den) (h : Rounds count (num / den) d) (hplaces : d.exponent = -places) :
    let shown := Decimal.fixed places num den
    Numeral.Denotes shown d.value ∧ (significantDigits shown).length = count ∧
      ∃ a : Mantissa, a.IsDecimal ∧ shown = a.chars := by
  intro shown
  have hshown : shown = (ofPlaces d.digits places).chars ++ [] := by
    rw [List.append_nil, chars_ofPlaces]
    exact h.fixed hden hplaces
  have hexponent : (0 : ℤ) - (ofPlaces d.digits places).fraction.length = d.exponent := by
    rw [Numeral.length_fraction_ofPlaces]
    omega
  obtain ⟨hdenotes, hsignificant⟩ := shows_rounded hcount h (isDecimal_ofPlaces _ _)
    startsSuffix_nil rfl (Numeral.ofDigitChars_ofPlaces _ _) hexponent
  rw [← hshown] at hdenotes hsignificant
  exact ⟨hdenotes, hsignificant, _, isDecimal_ofPlaces _ _, by rw [hshown, List.append_nil]⟩

/-- A count of significant digits, which is never less than one, is shown of exactly the number `r`
that a magnitude is rounded to, once and half to even. There is an exponent if `r` is less than
`10 ^ (-4)`, or has more digits in front of its point than are shown. -/
theorem generalChars_significant (precision : ℕ) {m : Magnitude} (h : m.isZero = false) :
    let count := max 1 precision
    let shown := generalChars precision m
    ∃ (r : ℚ) (leading : ℤ), (∀ r', RoundsTo count m.value r' ↔ r' = r) ∧
      10 ^ leading ≤ r ∧ r < 10 ^ (leading + 1) ∧
      Numeral.Denotes shown r ∧ (significantDigits shown).length = count ∧
      ∃ a : Mantissa, a.IsDecimal ∧
        if leading < -4 ∨ count ≤ leading then
          a.whole.length = 1 ∧ shown = a.chars ++ 'e' :: signedExponent leading
        else shown = a.chars := by
  intro count shown
  have hcount : 0 < count := by omega
  have hrounds := rounds_significant hcount (Magnitude.units_pos h) Magnitude.one_pos
  change Rounds count m.value (m.significant count) at hrounds
  obtain ⟨hlow, hhigh⟩ := hrounds.value_bounds hcount
  refine ⟨(m.significant count).value, (m.significant count).exponent + (count - 1 : ℕ),
    fun r' => ⟨fun hr' => hr'.unique hrounds.roundsTo, fun hr' => hr' ▸ hrounds.roundsTo⟩,
    hlow, hhigh, ?_⟩
  have hshown : shown = if (m.significant count).exponent + (count - 1 : ℕ) < -4 ∨
      (count : ℤ) ≤ (m.significant count).exponent + (count - 1 : ℕ) then
        (m.significant count).scientific 'e'
      else m.fixed
        ((count : ℤ) - 1 - ((m.significant count).exponent + (count - 1 : ℕ))).toNat := by
    simp only [shown, generalChars, h, Bool.false_eq_true, if_false, count]
  rw [hshown]
  generalize m.significant count = d at *
  split
  · exact shows_rounded_scientific hcount hrounds
  · refine shows_rounded_fixed hcount Magnitude.one_pos hrounds ?_
    omega

/-- The number 9.996 with three significant digits: rounding carries into a digit in front of the
point, and there is one decimal place less. -/
theorem generalChars_significant_carry :
    let m : Magnitude := ⟨5627247734399435, 1025, by decide, by decide, .inr (by decide)⟩
    let shown := "10.0".toList
    Double.ofText? "9.996".toList = some (.finite false m) ∧ m.isZero = false ∧
      generalChars 3 m = shown ∧
      ∃ (r : ℚ) (leading : ℤ), (∀ r', RoundsTo 3 m.value r' ↔ r' = r) ∧
        10 ^ leading ≤ r ∧ r < 10 ^ (leading + 1) ∧
        Numeral.Denotes shown r ∧ (significantDigits shown).length = 3 ∧
        ∃ a : Mantissa, a.IsDecimal ∧
          if leading < -4 ∨ 3 ≤ leading then
            a.whole.length = 1 ∧ shown = a.chars ++ 'e' :: signedExponent leading
          else shown = a.chars := by
  intro m shown
  have hshown : generalChars 3 m = shown := by decide +kernel
  have hsignificant := generalChars_significant 3 (m := m) (by decide +kernel)
  simp only [hshown] at hsignificant
  exact ⟨by decide +kernel, by decide +kernel, hshown, hsignificant⟩

end NumberPattern

end TextTemplate
