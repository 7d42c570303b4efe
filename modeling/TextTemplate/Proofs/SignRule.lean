import TextTemplate.Proofs.RadixDigits

/-!
Signs of numbers. Whether a number less than zero has a minus is found in two ways: from the
integer that it is rounded to, and from the text of its magnitude, read up to an exponent or a per
cent sign. Either way it is whether a digit other than zero is shown, which trimming and grouping
leave as it is, so a minus is never in front of zeros.
-/
namespace TextTemplate.NumberPattern
open Mantissa Emission

/-- The digits that are shown in front of an exponent or a per cent sign. A whole number has
neither, and its letters are digits. -/
def shownMantissa (p : NumberPattern) (digits : List Char) : List Char :=
  if p.style.any (·.isInteger) then digits else digits.takeWhile fun c => !isSuffixStart c

def isNonzeroDigit (c : Char) : Bool := c != '0' && isHexDigit c

theorem mem_rdropWhile_iff {p : Char → Bool} {c : Char} (hc : p c = false) {cs : List Char} :
    c ∈ cs.rdropWhile p ↔ c ∈ cs := by
  induction cs using List.reverseRecOn with
  | nil => rw [List.rdropWhile_nil]
  | append_singleton front d ih =>
      by_cases hd : p d = true
      · have hne : c ≠ d := by
          intro heq
          rw [heq, hd] at hc
          cases hc
        rw [List.rdropWhile_concat_pos p front d hd, ih, List.mem_append]
        simp [hne]
      · rw [List.rdropWhile_concat_neg p front d hd]

theorem mem_pointed_iff {c : Char} (hc : c ≠ '.') {digits : List Char} :
    c ∈ pointed digits ↔ c ∈ digits := by
  cases digits with
  | nil => rfl
  | cons d ds => simp [pointed, hc]

/-- Trimming and grouping keep everything but zeros, and points, and put in nothing but commas. -/
theorem mem_finished_iff (p : NumberPattern) (a : Mantissa) {c : Char} (hcomma : c ≠ ',')
    (hpoint : c ≠ '.') (hzero : c ≠ '0') : c ∈ (p.finished a).chars ↔ c ∈ a.chars := by
  rw [Mantissa.chars, Mantissa.chars, List.mem_append, List.mem_append, mem_pointed_iff hpoint,
    mem_pointed_iff hpoint, whole_finished, fraction_finished]
  refine or_congr ?_ ?_
  · split
    · exact mem_groupDigits_iff hcomma
    · rfl
  · split
    · exact mem_rdropWhile_iff (p := (· == '0')) (beq_eq_false_iff_ne.2 hzero)
    · rfl

theorem isNonzeroDigit_ne {c d : Char} (hc : isNonzeroDigit c = true)
    (hd : isNonzeroDigit d = false) : c ≠ d := by
  rintro rfl
  rw [hc] at hd
  cases hd

theorem exists_nonzero_finished (p : NumberPattern) (a : Mantissa) :
    (∃ c ∈ (p.finished a).chars, isNonzeroDigit c = true) ↔
      ∃ c ∈ a.chars, isNonzeroDigit c = true := by
  refine exists_congr fun c => and_congr_left fun hc => ?_
  exact mem_finished_iff p a (isNonzeroDigit_ne hc (by decide)) (isNonzeroDigit_ne hc (by decide))
    (isNonzeroDigit_ne hc (by decide))

theorem exists_nonzero_integerChars (style : NumberStyle) (m : Magnitude) :
    (∃ c ∈ integerChars style m, isNonzeroDigit c = true) ↔ nearestInteger m ≠ 0 := by
  obtain ⟨hzero, hchars⟩ | ⟨hne, c, rest, d, hchars, hd, hdne⟩ := integerChars_cases style m
  · simp [hchars, hzero, isNonzeroDigit]
  · rw [hchars]
    refine ⟨fun _ => hne, fun _ => ⟨c, List.mem_cons_self, ?_⟩⟩
    have hc : c ≠ '0' := by
      rintro rfl
      cases hd
      exact hdne rfl
    simp [isNonzeroDigit, isHexDigit, hc, hd]

theorem isNonzeroDigit_of_isDigit {c : Char} (h : c.isDigit = true) (hc : c ≠ '0') :
    isNonzeroDigit c = true := by
  have hrange := Char.isDigit_iff_toNat.1 h
  have hle : '0' ≤ c ∧ c ≤ '9' := hrange
  simp [isNonzeroDigit, isHexDigit, hexDigit?, hle, hc]

theorem showsZero_mantissa {a : Mantissa} (ha : a.IsDecimal) {suffix : List Char}
    (hsuffix : StartsSuffix suffix) :
    showsZero (a.chars ++ suffix) = false ↔ ∃ c ∈ a.chars, isNonzeroDigit c = true := by
  have htake := (split_suffix (fun _ hc => not_isSuffixStart_of_mem ha hc) hsuffix).1
  rw [showsZero, htake, List.all_eq_false]
  refine exists_congr fun c => and_congr_right fun hc => ?_
  constructor
  · intro hother
    simp only [Bool.or_eq_true, beq_iff_eq, not_or] at hother
    exact isNonzeroDigit_of_isDigit ((ha.mem_chars hc).resolve_right hother.2) hother.1
  · intro hnonzero hother
    simp only [Bool.or_eq_true, beq_iff_eq] at hother
    obtain rfl | rfl := hother <;> cases hnonzero

theorem not_isSuffixStart_of_mem_finished (p : NumberPattern) {a : Mantissa} (ha : a.IsDecimal)
    {c : Char} (hc : c ∈ (p.finished a).chars) : isSuffixStart c = false := by
  rw [← Bool.not_eq_true]
  intro hstart
  have hne (d : Char) (hd : isSuffixStart d = false) : c ≠ d := by
    rintro rfl
    rw [hstart] at hd
    cases hd
  rw [mem_finished_iff p a (hne ',' rfl) (hne '.' rfl) (hne '0' rfl)] at hc
  rw [not_isSuffixStart_of_mem ha hc] at hstart
  cases hstart

theorem shownMantissa_finished {p : NumberPattern} {a : Mantissa} (ha : a.IsDecimal)
    {suffix : List Char} (hsuffix : IsSuffix p.style suffix) :
    p.shownMantissa ((p.finished a).chars ++ suffix) = (p.finished a).chars := by
  rw [shownMantissa]
  split
  · rename_i hinteger
    rw [hsuffix.eq_nil hinteger, List.append_nil]
  · exact (split_suffix (fun _ hc => not_isSuffixStart_of_mem_finished p ha hc)
      hsuffix.startsSuffix).1

theorem showsNonzero_integer {p : NumberPattern} {style : NumberStyle} (h : p.style = some style)
    (hinteger : style.isInteger = true) (m : Magnitude) :
    p.showsNonzero m = true ↔ ∃ c ∈ integerChars style m, isNonzeroDigit c = true := by
  rw [exists_nonzero_integerChars, showsNonzero, h]
  simp [hinteger]

/-- A magnitude counts as shown if there is a digit other than zero in what is written of it. -/
theorem showsNonzero_iff {p : NumberPattern} {m : Magnitude} (h : p.InRange (.finite false m)) :
    p.showsNonzero m = true ↔
      ∃ c ∈ p.shownMantissa (p.digitChars m), isNonzeroDigit c = true := by
  obtain ⟨style, hstyle, hsome, hchars⟩ | ⟨-, a, suffix, ha, hsuffix, -, hcs, hchars⟩ :=
    digitChars_cases h
  · have hinteger := isInteger_of_radix? hsome
    rw [showsNonzero_integer hstyle hinteger, hchars, shownMantissa, hstyle, Option.any_some,
      if_pos hinteger]
  · rw [hchars, shownMantissa_finished ha hsuffix, exists_nonzero_finished]
    cases hinteger : p.style.any (·.isInteger) with
    | true =>
        obtain ⟨style, hstyle, hsome⟩ := (Option.any_eq_true _ _).1 hinteger
        rw [hsuffix.eq_nil hinteger, List.append_nil, styledChars_integer hstyle hsome] at hcs
        rw [showsNonzero_integer hstyle hsome, hcs]
    | false =>
        rw [← showsZero_mantissa ha hsuffix.startsSuffix, ← hcs]
        simp [showsNonzero, hinteger]

/-- Without a width, a finite number is written as a sign, a symbol and digits, and the symbol and
the digits do not depend on the sign of the number. The sign is a minus if the number is less than
zero and has a digit other than zero in its mantissa as shown, and else what the pattern says. So
two opposite numbers differ in their signs only, and both zeros are written alike. -/
theorem format_signed {p : NumberPattern} (hwidth : p.width = none) {negative : Bool}
    {m : Magnitude} (hrange : p.InRange (.finite negative m)) :
    let digits := p.digitChars m
    (p.format (.finite negative m)).toList =
        (if (Double.finite negative m).isNegative = true ∧
            (p.shownMantissa digits).any isNonzeroDigit = true then ['-']
          else match p.sign with
            | some .plus => ['+']
            | some .space => [' ']
            | some .minus | none => []) ++ p.symbolChars ++ digits ∧
      (∃ sign rest, IsSignText sign ∧ (p.format (.finite negative m)).toList = sign ++ rest ∧
        ∃ sign', IsSignText sign' ∧ (p.format (.finite (!negative) m)).toList = sign' ++ rest) ∧
      p.format (.finite true .zero) = p.format (.finite false .zero) := by
  have hsign (negative : Bool) : ∃ sign, IsSignText sign ∧
      (p.format (.finite negative m)).toList = sign ++ (p.symbolChars ++ p.digitChars m) := by
    simpa only [List.append_assoc] using exists_sign_format hwidth negative m
  have hplain : p.signChars false = match p.sign with
      | some .plus => ['+']
      | some .space => [' ']
      | some .minus | none => [] := by
    rw [signChars, if_neg Bool.false_ne_true]
    cases p.sign with
    | none => rfl
    | some mode => cases mode <;> rfl
  refine ⟨?_, ?_, (format_unsignedZero p (.finite true .zero)).symm⟩
  · have hshown := showsNonzero_iff (inRange_unsigned.1 hrange)
    rw [← List.any_eq_true] at hshown
    simp only [toList_format_finite hwidth, hshown, hplain]
  · obtain ⟨sign, htext, hchars⟩ := hsign negative
    exact ⟨sign, _, htext, hchars, hsign (!negative)⟩

/-- A small negative number in per cent, of which the pattern leaves nothing but zero. -/
theorem format_signed_vanishing :
    let p : NumberPattern :=
      { sign := some .plus, symbol := some .currency, precision := some 1, trim := true,
        style := some .percent }
    let m : Magnitude := ⟨7378697629483821, 1010, by decide, by decide, .inr (by decide)⟩
    parse "+$.1~%" = .ok p ∧ Double.ofText? "-0.0004".toList = some (.finite true m) ∧
      p.width = none ∧ p.InRange (.finite true m) ∧ p.digitChars m = "0%".toList ∧
      "+$0%".toList =
        (if (Double.finite true m).isNegative = true ∧
            (p.shownMantissa "0%".toList).any isNonzeroDigit = true then ['-']
          else ['+']) ++ ['$'] ++ "0%".toList ∧
      (∃ sign rest, IsSignText sign ∧ "+$0%".toList = sign ++ rest ∧
        ∃ sign', IsSignText sign' ∧ (p.format (.finite false m)).toList = sign' ++ rest) ∧
      p.format (.finite true .zero) = p.format (.finite false .zero) := by
  intro p m
  have hrange : p.InRange (.finite true m) := fun _ => by decide +kernel
  have hdigits : p.digitChars m = "0%".toList := by decide +kernel
  have hshown : (p.format (.finite true m)).toList = "+$0%".toList := by decide +kernel
  have hsigned := format_signed (p := p) rfl hrange
  simp only [hdigits, hshown] at hsigned
  exact ⟨by decide +kernel, by decide +kernel, rfl, hrange, hdigits, hsigned⟩

end TextTemplate.NumberPattern
