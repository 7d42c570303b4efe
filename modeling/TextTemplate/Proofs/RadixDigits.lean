import TextTemplate.Proofs.DecimalRounding
import TextTemplate.Proofs.EmittedLiterals
import TextTemplate.Proofs.NumeralLayout

/-!
Whole numbers in a radix. The styles of whole numbers round half away from zero and write the
digits of the result, which read back as that integer and do not start with a zero. They can show
no integer beyond 64 bits, and show the greatest one in its place.
-/
namespace TextTemplate.NumberPattern
open Emission

/-- The number that digits of a base write, if all of them are digits of that base. -/
def ofRadix? (base : Nat) (cs : List Char) : Option Nat :=
  cs.foldlM (fun n c => (hexDigit? c).bind fun d =>
    if d < base then some (base * n + d) else none) 0

/-- Letters of digits count the same in either case, so the digits may have been written by any `f`
that keeps what they count. -/
theorem ofRadix?_toDigits {base : Nat} (hbase : 1 < base) {f : Char → Char}
    (hf : ∀ d < base, hexDigit? (f d.digitChar) = some d) (n : Nat) :
    ofRadix? base ((Nat.toDigits base n).map f) = some n := by
  induction n using Nat.strongRecOn with
  | ind n ih =>
      by_cases hn : n < base
      · rw [Nat.toDigits_of_lt_base hn]
        simp [ofRadix?, hf n hn, hn]
      · have hlt : n % base < base := Nat.mod_lt n (by omega)
        have hfront := ih (n / base) (Nat.div_lt_self (by omega) hbase)
        rw [ofRadix?] at hfront
        rw [Nat.toDigits_of_base_le hbase (Nat.le_of_not_lt hn), List.map_append, ofRadix?,
          List.foldlM_append, hfront]
        simp [hf _ hlt, hlt, Nat.div_add_mod]

theorem eq_zero_of_hexDigit? {c : Char} (h : hexDigit? c = some 0) : c = '0' := by
  rw [hexDigit?] at h
  split at h
  · rename_i hrange
    have hlow : 48 ≤ c.toNat := hrange.1
    have hzero : c.toNat - 48 = 0 := Option.some.inj h
    exact Char.toNat_inj.1 (show c.toNat = 48 by omega)
  · split at h
    · cases h
    · split at h <;> cases h

/-- The radix of a style of whole numbers. -/
def base (style : NumberStyle) : Nat := style.radix?.getD 10

theorem one_lt_base (style : NumberStyle) : 1 < base style := by
  cases style <;> decide

theorem integerChars_eq_map (style : NumberStyle) (m : Magnitude) :
    ∃ f : Char → Char, (∀ d < base style, hexDigit? (f d.digitChar) = some d) ∧
      integerChars style m = (Nat.toDigits (base style) (nearestInteger m)).map f := by
  by_cases hupper : style = .hexUpper
  · refine ⟨Char.toUpper, ?_, ?_⟩
    · rw [hupper]
      decide
    · simp only [integerChars, hupper, if_true]
      rfl
  · refine ⟨id, fun d hd => hexDigit?_digitChar ?_, ?_⟩
    · have hle : base style ≤ 16 := by cases style <;> decide
      exact Nat.lt_of_lt_of_le hd hle
    · rw [List.map_id]
      simp only [integerChars, hupper, if_false]
      rfl

theorem ofRadix?_integerChars (style : NumberStyle) (m : Magnitude) :
    ofRadix? (base style) (integerChars style m) = some (nearestInteger m) := by
  obtain ⟨f, hf, hchars⟩ := integerChars_eq_map style m
  rw [hchars]
  exact ofRadix?_toDigits (one_lt_base style) hf _

/-- A whole number other than zero starts with a digit other than zero, and zero is one zero. -/
theorem integerChars_cases (style : NumberStyle) (m : Magnitude) :
    nearestInteger m = 0 ∧ integerChars style m = ['0'] ∨
      nearestInteger m ≠ 0 ∧ ∃ c rest d, integerChars style m = c :: rest ∧
        hexDigit? c = some d ∧ d ≠ 0 := by
  obtain ⟨f, hf, hchars⟩ := integerChars_eq_map style m
  have hone := one_lt_base style
  rw [hchars]
  by_cases hzero : nearestInteger m = 0
  · refine .inl ⟨hzero, ?_⟩
    rw [hzero, Nat.toDigits_zero, List.map_singleton]
    exact congrArg (fun c => [c]) (eq_zero_of_hexDigit? (hf 0 (Nat.zero_lt_of_lt hone)))
  · obtain ⟨d, rest, hd, hlt, hdigits⟩ := exists_toDigits_eq_cons hone hzero
    exact .inr ⟨hzero, f d.digitChar, rest.map f, d, by rw [hdigits, List.map_cons],
      hf d hlt, hd⟩

theorem roundHalfUp_eq_round (num : Nat) {den : Nat} (h : 0 < den) :
    (Decimal.roundHalfUp num den : ℤ) = round ((num : ℚ) / den) := by
  have hden : (den : ℚ) ≠ 0 := by exact_mod_cast Nat.ne_of_gt h
  have hsum : (num : ℚ) / den + 1 / 2 = ((2 * num + den : ℕ) : ℤ) / (2 * den : ℕ) := by
    push_cast
    field_simp
  rw [round_eq, hsum, Rat.floor_intCast_div_natCast, Decimal.roundHalfUp, Int.natCast_ediv]

/-- The nearest integer, unless it is beyond the greatest that can be shown. -/
theorem nearestInteger_eq_min (m : Magnitude) :
    (nearestInteger m : ℤ) = min (round m.value) (2 ^ 64 - 1) := by
  have hmax : ((maxInteger : ℕ) : ℤ) = 2 ^ 64 - 1 := by decide +kernel
  rw [nearestInteger, Nat.cast_min, roundHalfUp_eq_round _ Magnitude.one_pos, hmax]
  rfl

theorem nearestInteger_eq_zero_iff (m : Magnitude) : nearestInteger m = 0 ↔ round m.value = 0 := by
  have hmin := nearestInteger_eq_min m
  omega

/-- A style of whole numbers writes a finite number as a sign, the symbol of the pattern and the
digits, in the radix of the style, of the nearest integer, where a half is rounded away from zero.
In place of an integer beyond `2 ^ 64 - 1` that greatest one stands. There are no zeros in front of
other digits, and no minus in front of zero. -/
theorem format_integer {p : NumberPattern} {style : NumberStyle} (hstyle : p.style = some style)
    (hinteger : style.isInteger = true) (hwidth : p.width = none) (hgrouping : p.grouping = false)
    (negative : Bool) (m : Magnitude) :
    let nearest := round m.value
    ∃ sign digits n,
      (p.format (.finite negative m)).toList = sign ++ p.symbolChars ++ digits ∧
      ofRadix? (base style) digits = some n ∧ (n : ℤ) = min nearest (2 ^ 64 - 1) ∧
      digits ≠ [] ∧ (digits.head? = some '0' → digits = ['0']) ∧
      sign = if (Double.finite negative m).isNegative = true ∧ nearest ≠ 0 then ['-']
        else p.signChars false := by
  intro nearest
  refine ⟨_, _, nearestInteger m, toList_format_finite hwidth negative m, ?_,
    nearestInteger_eq_min m, ?_, ?_, ?_⟩
  · rw [digitChars_integer hstyle hinteger (.inl hgrouping)]
    exact ofRadix?_integerChars style m
  · rw [digitChars_integer hstyle hinteger (.inl hgrouping)]
    exact integerChars_ne_nil style m
  · rw [digitChars_integer hstyle hinteger (.inl hgrouping)]
    intro hhead
    obtain ⟨-, hzero⟩ | ⟨-, c, rest, d, hdigits, hd, hne⟩ := integerChars_cases style m
    · exact hzero
    · rw [hdigits] at hhead
      cases hhead
      cases hd
      exact absurd rfl hne
  · have hshown : p.showsNonzero m = true ↔ nearest ≠ 0 := by
      rw [showsNonzero, hstyle]
      simp only [Option.any_some, hinteger, if_true, bne_iff_ne, ne_eq,
        nearestInteger_eq_zero_iff, nearest]
    simp only [hshown]

/-- The number -255.5 in hexadecimal: the half goes away from zero. -/
theorem format_integer_half :
    let p : NumberPattern := { symbol := some .alternate, style := some .hex }
    let m : Magnitude := ⟨8989607068696576, 1029, by decide, by decide, .inr (by decide)⟩
    parse "#x" = .ok p ∧ Double.ofText? "-255.5".toList = some (.finite true m) ∧
      NumberStyle.hex.isInteger = true ∧ p.width = none ∧ p.grouping = false ∧
      round m.value = 256 ∧
      ∃ sign digits n, "-0x100".toList = sign ++ ['0', 'x'] ++ digits ∧
        ofRadix? 16 digits = some n ∧ (n : ℤ) = 256 ∧
        digits ≠ [] ∧ (digits.head? = some '0' → digits = ['0']) ∧ sign = ['-'] := by
  intro p m
  have hinteger : nearestInteger m = 256 := by decide +kernel
  have hnearest : round m.value = 256 := by
    have hmin := nearestInteger_eq_min m
    omega
  have hshown : (p.format (.finite true m)).toList = "-0x100".toList := by decide +kernel
  have hnegative : (Double.finite true m).isNegative = true := by decide +kernel
  refine ⟨by decide +kernel, by decide +kernel, rfl, rfl, rfl, hnearest, ?_⟩
  have hstyle : p.style = some .hex := rfl
  obtain ⟨sign, digits, n, hchars, hdigits, hn, hne, hzeros, hsign⟩ :=
    format_integer hstyle rfl rfl rfl true m
  rw [hshown] at hchars
  rw [hnearest] at hn hsign
  rw [if_pos ⟨hnegative, by decide⟩] at hsign
  exact ⟨sign, digits, n, hchars, hdigits, hn, hne, hzeros, hsign⟩

/-- The number `2 ^ 64` is a whole one, and another one is shown. -/
theorem format_integer_greatest :
    let p : NumberPattern := { style := some .decimal }
    let m : Magnitude := ⟨4503599627370496, 1086, by decide, by decide, .inr (by decide)⟩
    parse "d" = .ok p ∧ p.width = none ∧ p.grouping = false ∧
      round m.value = 18446744073709551616 ∧
      p.format (.finite false m) = "18446744073709551615" ∧
      ofRadix? 10 "18446744073709551615".toList = some 18446744073709551615 := by
  intro p m
  have hunits : m.units = 2 ^ 64 * Magnitude.one := by decide +kernel
  have hvalue : m.value = (2 ^ 64 : ℕ) := by
    rw [Magnitude.value, hunits, Nat.cast_mul, mul_div_cancel_right₀]
    exact_mod_cast Nat.ne_of_gt Magnitude.one_pos
  refine ⟨by decide +kernel, rfl, rfl, ?_, by decide +kernel, by decide +kernel⟩
  rw [hvalue, round_natCast]
  rfl

end TextTemplate.NumberPattern
