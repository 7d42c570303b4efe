import TextTemplate.Double.Text
import TextTemplate.Proofs.Preliminaries
import TextTemplate.Syntax.Token

/-!
Numbers in template text. What a finite number is written as reads back as that number, and it is
a single bare token. The shortest form reads back because each candidate is tried, and where none
does the exact value takes its place.
-/
namespace TextTemplate

namespace Decimal

theorem roundHalfEven_mul (n : Nat) {den : Nat} (h : 0 < den) :
    roundHalfEven (n * den) den = n := by
  simp [roundHalfEven, Nat.mul_div_cancel n h, Nat.mul_mod_left, h]

theorem length_toDigits_shift {n : Nat} (h : n ≠ 0) (e : Nat) :
    (Nat.toDigits 10 (n * 10 ^ e)).length = (Nat.toDigits 10 n).length + e := by
  induction e with
  | zero => simp
  | succ e ih =>
      have hpos : 0 < n * 10 ^ e := Nat.mul_pos (Nat.pos_of_ne_zero h) (Nat.pow_pos (by decide))
      have hbase : 10 ≤ n * 10 ^ (e + 1) := by
        rw [Nat.pow_succ, ← Nat.mul_assoc]
        omega
      have hdiv : n * 10 ^ (e + 1) / 10 = n * 10 ^ e := by
        rw [Nat.pow_succ, ← Nat.mul_assoc, Nat.mul_div_cancel _ (by decide)]
      rw [Nat.toDigits_of_base_le (by decide) hbase, List.length_append, hdiv, ih,
        List.length_singleton]
      omega

end Decimal

namespace Magnitude
open Decimal

theorem log2_units (m : Magnitude) : m.units.log2 + 1 - 53 = m.scale := by
  cases m.normal with
  | inl hscale =>
      have hlt : m.units < 2 ^ 53 := by
        rw [units, hscale, Nat.pow_zero, Nat.mul_one]
        exact m.significand_lt
      rw [hscale]
      by_cases hzero : m.units = 0
      · rw [hzero]
        rfl
      · have := (Nat.log2_lt hzero).2 hlt
        omega
  | inr hnormal =>
      have hne : m.units ≠ 0 := by
        have hpow : 0 < 2 ^ m.scale := Nat.pow_pos (by decide)
        have hsig : 0 < m.significand := by omega
        exact Nat.ne_of_gt (Nat.mul_pos hsig hpow)
      have hlog : m.units.log2 = 52 + m.scale := by
        rw [Nat.log2_eq_iff hne]
        refine ⟨?_, ?_⟩
        · rw [Nat.pow_add]
          exact Nat.mul_le_mul_right _ hnormal
        · rw [show 52 + m.scale + 1 = 53 + m.scale by omega, Nat.pow_add]
          exact Nat.mul_lt_mul_of_pos_right m.significand_lt (Nat.pow_pos (by decide))
      omega

/-- A magnitude is the nearest one to its own value. -/
theorem nearest?_units (m : Magnitude) {k : Nat} (hk : 0 < k) :
    nearest? (m.units * k) k = some m := by
  have hround : roundHalfEven (m.units * k) (k * 2 ^ m.scale) = m.significand := by
    have hunits : m.units * k = m.significand * (k * 2 ^ m.scale) := by
      rw [units, Nat.mul_assoc, Nat.mul_comm k]
    rw [hunits, roundHalfEven_mul _ (Nat.mul_pos hk (Nat.pow_pos (by decide)))]
  have hlt := m.significand_lt
  simp only [nearest?, Nat.mul_div_cancel _ hk, log2_units, hround]
  rw [if_neg (by omega), ofParts?, dif_pos ⟨m.significand_lt, m.scale_le, m.normal⟩]

/-- Zeros moved from the exponent to the digits do not change the value. -/
theorem ofDecimal?_shift (n e : Nat) : ofDecimal? ⟨n * 10 ^ e, 0⟩ = ofDecimal? ⟨n, e⟩ := by
  by_cases hn : n = 0
  · simp [ofDecimal?, hn]
  · have hpow : 10 ^ e ≠ 0 := Nat.ne_of_gt (Nat.pow_pos (by decide))
    have hleading : (0 : Int) + (Nat.toDigits 10 (n * 10 ^ e)).length - 1 =
        (e : Int) + (Nat.toDigits 10 n).length - 1 := by
      rw [length_toDigits_shift hn]
      omega
    simp only [ofDecimal?, Nat.mul_eq_zero, hn, hpow, or_self, if_false, hleading]
    simp only [Nat.pow_zero, Nat.mul_one]

theorem eq_zero_of_isZero {m : Magnitude} (h : m.isZero = true) : m = zero := by
  obtain ⟨significand, scale, hlt, hle, hnormal⟩ := m
  simp only [isZero, beq_iff_eq] at h
  subst h
  have hscale : scale = 0 := by omega
  subst hscale
  rfl

theorem units_pos {m : Magnitude} (h : m.isZero = false) : 0 < m.units := by
  simp only [isZero, beq_eq_false_iff_ne] at h
  exact Nat.mul_pos (Nat.pos_of_ne_zero h) (Nat.pow_pos (by decide))

theorem units_lt (m : Magnitude) : m.units < 2 ^ 2098 := by
  have hscale := Nat.pow_le_pow_right (show 0 < 2 by decide) m.scale_le
  calc m.significand * 2 ^ m.scale < 2 ^ 53 * 2 ^ m.scale :=
        Nat.mul_lt_mul_of_pos_right m.significand_lt (Nat.pow_pos (by decide))
    _ ≤ 2 ^ 53 * 2 ^ 2045 := Nat.mul_le_mul_left _ hscale
    _ = 2 ^ 2098 := by decide +kernel

/-- The exact value is never so far out of range that it is settled without computing it. -/
theorem length_exact {m : Magnitude} (h : m.isZero = false) :
    1073 < (Nat.toDigits 10 (m.units * 5 ^ 1074)).length + 399 ∧
      (Nat.toDigits 10 (m.units * 5 ^ 1074)).length ≤ 1073 + 402 := by
  have hpos := units_pos h
  refine ⟨Nat.add_lt_add_right (?_ : 674 < _) 399, ?_⟩
  -- The least magnitude is one unit, the greatest is below `2 ^ 2098` of them.
  · rw [← Nat.not_le, Nat.length_toDigits_le_iff (by decide) (by decide), Nat.not_lt]
    calc 10 ^ 674 ≤ 1 * 5 ^ 1074 := by decide +kernel
      _ ≤ m.units * 5 ^ 1074 := Nat.mul_le_mul_right _ hpos
  · refine (Nat.length_toDigits_le_iff (by decide) (by decide)).2 ?_
    calc m.units * 5 ^ 1074 < 2 ^ 2098 * 5 ^ 1074 :=
          Nat.mul_lt_mul_of_pos_right m.units_lt (by decide +kernel)
      _ ≤ 10 ^ (1073 + 402) := by decide +kernel

theorem ofDecimal?_places {n p places : Nat} {e : Int} (he : e = .negSucc p)
    (hp : places = p + 1) (hn : n ≠ 0) (hlow : p < (Nat.toDigits 10 n).length + 399)
    (hhigh : (Nat.toDigits 10 n).length ≤ p + 402) :
    ofDecimal? ⟨n, e⟩ = nearest? (n * one) (10 ^ places) := by
  subst he hp
  rw [ofDecimal?, if_neg hn]
  simp only
  rw [if_neg (by omega), if_neg (by omega)]

theorem nearest?_places (m : Magnitude) (places : Nat) (h : one = 2 ^ places) :
    nearest? (m.units * 5 ^ places * one) (10 ^ places) = some m := by
  rw [h, Nat.mul_assoc, ← Nat.mul_pow]
  exact nearest?_units m (Nat.pow_pos (by decide))

theorem ofDecimal?_exact {m : Magnitude} (h : m.isZero = false) :
    ofDecimal? m.exact = some m := by
  obtain ⟨hlow, hhigh⟩ := length_exact h
  have hne : m.units * 5 ^ 1074 ≠ 0 := by
    intro heq
    rw [heq] at hlow
    exact absurd hlow (by decide)
  have hexponent : (-1074 : Int) = .negSucc 1073 := rfl
  have hplaces : 1074 = 1073 + 1 := rfl
  exact (ofDecimal?_places hexponent hplaces hne hlow hhigh).trans
    (nearest?_places m 1074 one.eq_def)

theorem ofDecimal?_closest {m : Magnitude} {count : Nat} {d : Decimal}
    (h : m.closest? count = some d) : ofDecimal? d = some m := by
  unfold closest? at h
  dsimp only at h
  split at h
  · rename_i hbelow habove
    split at h <;> cases h
    · exact eq_of_beq hbelow
    · exact eq_of_beq habove
  · rename_i hbelow habove
    cases h
    exact eq_of_beq hbelow
  · rename_i hbelow habove
    cases h
    exact eq_of_beq habove
  · cases h

/-- The shortest form of a magnitude reads back as it. -/
theorem ofDecimal?_shortest (m : Magnitude) : ofDecimal? m.shortest = some m := by
  rw [shortest]
  split
  · rename_i hzero
    rw [eq_zero_of_isZero hzero]
    rfl
  · rename_i hzero
    cases hfind : (List.range' 1 17).findSome? m.closest? with
    | none => exact ofDecimal?_exact (Bool.not_eq_true _ ▸ hzero)
    | some d =>
        obtain ⟨count, -, hcount⟩ := List.exists_of_findSome?_eq_some hfind
        exact ofDecimal?_closest hcount

end Magnitude

theorem isDigit_of_mem_toDigits {n : Nat} {c : Char} (h : c ∈ Nat.toDigits 10 n) : c.isDigit :=
  Nat.isDigit_of_mem_toDigits (by decide) (by decide) h

namespace Decimal

theorem isDigit_of_mem_padded {width n : Nat} {c : Char} (h : c ∈ padded width n) :
    c.isDigit := by
  cases List.mem_append.1 h with
  | inl h =>
      rw [List.eq_of_mem_replicate h]
      rfl
  | inr h => exact isDigit_of_mem_toDigits h

theorem length_padded {width n : Nat} (hw : 0 < width) (h : n < 10 ^ width) :
    (padded width n).length = width := by
  have hle := (Nat.length_toDigits_le_iff (show 1 < 10 by decide) hw).2 h
  simp only [padded, List.length_append, List.length_replicate]
  omega

theorem ofDigitChars_padded (width n : Nat) : Nat.ofDigitChars 10 (padded width n) 0 = n := by
  simp [padded, Nat.ofDigitChars_append]

/-- The digits on both sides of the point are those of the number. -/
theorem ofDigitChars_places (n : Nat) {places : Nat} (h : 0 < places) :
    Nat.ofDigitChars 10
      (Nat.toDigits 10 (n / 10 ^ places) ++ padded places (n % 10 ^ places)) 0 = n := by
  have hlt : n % 10 ^ places < 10 ^ places := Nat.mod_lt _ (Nat.pow_pos (by decide))
  rw [Nat.ofDigitChars_append, Nat.ofDigitChars_ten_toDigits,
    Nat.ofDigitChars_eq_ofDigitChars_zero, ofDigitChars_padded, length_padded h hlt,
    Nat.div_add_mod]

end Decimal

namespace Numeral
open Decimal

theorem splitSign_of_isDigit {cs : List Char} (h : ∀ c ∈ cs.head?, c.isDigit) :
    splitSign cs = (false, cs) := by
  unfold splitSign
  split
  · exact absurd (h '-' rfl) (by decide)
  · exact absurd (h '+' rfl) (by decide)
  · rfl

theorem digitRun_append {digits rest : List Char} (hd : ∀ c ∈ digits, c.isDigit)
    (hr : ∀ c ∈ rest.head?, c.isDigit = false) : digitRun (digits ++ rest) = (digits, rest) := by
  obtain ⟨htake, hdrop⟩ := takeWhile_append_stop hd hr
  rw [digitRun, htake, hdrop]

/-- The sign that stands in front of the digits of a number. -/
def sign (negative : Bool) : List Char := if negative then ['-'] else []

theorem splitSign_sign (negative : Bool) {cs : List Char} (h : ∀ c ∈ cs.head?, c.isDigit) :
    splitSign (sign negative ++ cs) = (negative, cs) := by
  cases negative with
  | true => rfl
  | false => exact splitSign_of_isDigit h

theorem isDigit_head_append {whole : List Char} (hne : whole ≠ []) (h : ∀ c ∈ whole, c.isDigit)
    (rest : List Char) : ∀ c ∈ (whole ++ rest).head?, c.isDigit := by
  intro c hc
  obtain ⟨first, later, rfl⟩ := List.exists_cons_of_ne_nil hne
  exact h c (List.mem_of_head? hc)

/-- An exponent starts with its marker, so what stands in front of it ends there. -/
theorem marker_of_readExponent? {cs : List Char} {e : Int} (h : readExponent? cs = some e)
    {c : Char} (hc : c ∈ cs.head?) : c = 'e' ∨ c = 'E' := by
  cases cs with
  | nil => cases hc
  | cons d ds =>
      cases hc
      rw [readExponent?] at h
      split at h
      · assumption
      · cases h

theorem isDigit_marker {cs : List Char} {e : Int} (h : readExponent? cs = some e) :
    ∀ c ∈ cs.head?, c.isDigit = false := by
  intro c hc
  obtain rfl | rfl := marker_of_readExponent? h hc <;> rfl

theorem read?_whole (negative : Bool) {whole exponent : List Char} (hne : whole ≠ [])
    (hw : ∀ c ∈ whole, c.isDigit) {e : Int} (he : readExponent? exponent = some e) :
    read? (sign negative ++ (whole ++ exponent)) =
      some ⟨negative, ⟨Nat.ofDigitChars 10 whole 0, e⟩⟩ := by
  have hrun := digitRun_append hw (isDigit_marker he)
  rw [read?, splitSign_sign negative (isDigit_head_append hne hw exponent)]
  simp only [hrun]
  split
  · have hpoint := marker_of_readExponent? he (c := '.') rfl
    exact absurd hpoint (by decide)
  · simp [hne, he]

theorem read?_point (negative : Bool) {whole fraction exponent : List Char} (hne : whole ≠ [])
    (hw : ∀ c ∈ whole, c.isDigit) (hf : ∀ c ∈ fraction, c.isDigit) {e : Int}
    (he : readExponent? exponent = some e) :
    read? (sign negative ++ (whole ++ '.' :: (fraction ++ exponent))) =
      some ⟨negative, ⟨Nat.ofDigitChars 10 (whole ++ fraction) 0, e - fraction.length⟩⟩ := by
  have hrun : digitRun (whole ++ '.' :: (fraction ++ exponent)) =
      (whole, '.' :: (fraction ++ exponent)) := digitRun_append hw (by simp)
  have hrest := digitRun_append hf (isDigit_marker he)
  rw [read?, splitSign_sign negative (isDigit_head_append hne hw _)]
  simp [hrun, hrest, hne, he]

/-- What is written positionally reads as the same number, without an exponent that is not
negative. -/
theorem read?_positional (negative : Bool) (d : Decimal) :
    read? (sign negative ++ d.positional) =
      some ⟨negative,
        match d.exponent with
        | .ofNat e => ⟨d.digits * 10 ^ e, 0⟩
        | .negSucc _ => d⟩ := by
  obtain ⟨n, exponent⟩ := d
  cases exponent with
  | ofNat e =>
      have hread := read?_whole negative (Nat.toDigits_ne_nil (b := 10) (n := n * 10 ^ e))
        (fun c hc => isDigit_of_mem_toDigits hc) (show readExponent? [] = some 0 from rfl)
      rw [Nat.ofDigitChars_ten_toDigits, List.append_nil] at hread
      exact hread
  | negSucc p =>
      have hlt : n % 10 ^ (p + 1) < 10 ^ (p + 1) := Nat.mod_lt _ (Nat.pow_pos (by decide))
      have hread := read?_point negative (Nat.toDigits_ne_nil (b := 10) (n := n / 10 ^ (p + 1)))
        (fun c hc => isDigit_of_mem_toDigits hc)
        (fun c (hc : c ∈ padded (p + 1) (n % 10 ^ (p + 1))) => isDigit_of_mem_padded hc)
        (show readExponent? [] = some 0 from rfl)
      rw [ofDigitChars_places n (Nat.succ_pos p), length_padded (Nat.succ_pos p) hlt,
        List.append_nil, Int.zero_sub] at hread
      exact hread

end Numeral

namespace Double
open Numeral

theorem plainChars_finite (negative : Bool) (m : Magnitude) :
    (finite negative m).plainChars = sign negative ++ m.shortest.positional := rfl

theorem ofText?_positional (negative : Bool) (d : Decimal) :
    ofText? (sign negative ++ d.positional) =
      some (ofMagnitude negative (Magnitude.ofDecimal? d)) := by
  rw [ofText?, read?_positional, Option.map_some, ofNumeral]
  obtain ⟨n, exponent⟩ := d
  cases exponent with
  | ofNat e => exact congrArg (some <| ofMagnitude negative ·) (Magnitude.ofDecimal?_shift n e)
  | negSucc p => rfl

/-- A finite number reads back from its plain text. -/
theorem ofText?_plainChars {x : Double} (h : x.isFinite = true) :
    ofText? x.plainChars = some x := by
  cases x with
  | nan | infinite _ => cases h
  | finite negative m =>
      rw [plainChars_finite, ofText?_positional, Magnitude.ofDecimal?_shortest]
      rfl

theorem mem_positional {d : Decimal} {c : Char} (h : c ∈ d.positional) :
    c.isDigit = true ∨ c = '.' := by
  obtain ⟨n, exponent⟩ := d
  cases exponent with
  | ofNat e => exact .inl (isDigit_of_mem_toDigits h)
  | negSucc p =>
      change c ∈ Decimal.withPlaces n (p + 1) at h
      rw [Decimal.withPlaces, if_neg (Nat.succ_ne_zero _)] at h
      cases List.mem_append.1 h with
      | inl h => exact .inl (isDigit_of_mem_toDigits h)
      | inr h => exact (List.mem_cons.1 h).symm.imp Decimal.isDigit_of_mem_padded id

theorem mem_plainChars {x : Double} (h : x.isFinite = true) {c : Char} (hc : c ∈ x.plainChars) :
    c.isDigit = true ∨ c = '.' ∨ c = '-' := by
  cases x with
  | nan | infinite _ => cases h
  | finite negative m =>
      rw [plainChars_finite, List.mem_append] at hc
      cases hc with
      | inl hc =>
          cases negative with
          | true => exact .inr (.inr (List.mem_singleton.1 hc))
          | false => cases hc
      | inr hc => exact (mem_positional hc).imp id .inl

theorem positional_ne_nil (d : Decimal) : d.positional ≠ [] := by
  obtain ⟨n, exponent⟩ := d
  cases exponent with
  | ofNat e => exact Nat.toDigits_ne_nil
  | negSucc p =>
      change Decimal.withPlaces n (p + 1) ≠ []
      rw [Decimal.withPlaces, if_neg (Nat.succ_ne_zero _)]
      simp

theorem isBare_of_isDigit {c : Char} (h : c.isDigit = true) : Token.isBare c = true := by
  have hdigits : ∀ n ∈ List.range' 48 10, Token.isBare (Char.ofNat n) = true := by decide
  have hrange := Char.isDigit_iff_toNat.1 h
  rw [← Char.ofNat_toNat c]
  apply hdigits
  rw [List.mem_range'_1]
  change 48 ≤ c.toNat ∧ c.toNat ≤ 57 at hrange
  omega

/-- The plain text of a finite number can be a bare token, and it has no braces. -/
theorem shape_plainChars {x : Double} (h : x.isFinite = true) :
    x.plainChars ≠ [] ∧ (∀ c ∈ x.plainChars, Token.isBare c = true) ∧ '\x7d' ∉ x.plainChars := by
  refine ⟨?_, fun c hc => ?_, fun hc => ?_⟩
  · cases x with
    | nan | infinite _ => cases h
    | finite negative m => simp [plainChars_finite, positional_ne_nil]
  · rcases mem_plainChars h hc with hdigit | rfl | rfl
    · exact isBare_of_isDigit hdigit
    · decide
    · decide
  · rcases mem_plainChars h hc with hdigit | heq | heq
    · exact absurd hdigit (by decide)
    · exact absurd heq (by decide)
    · exact absurd heq (by decide)

end Double
end TextTemplate
