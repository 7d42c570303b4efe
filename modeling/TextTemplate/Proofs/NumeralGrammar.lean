import TextTemplate.Proofs.NumeralLayout

/-!
The grammar of numerals. What a finite number is written as has a sign, a symbol, digits in the
radix of the style, a fraction and a suffix, in this order and nothing else, and each part only if
the pattern has it. That fails for one style: a hundred times a number may be out of range, and what
is shown in per cent is a word then.
-/
namespace TextTemplate.NumberPattern
open Mantissa

/-- Digits, with commas between them if those are allowed. -/
inductive DigitRun (isDigit : Char → Bool) (commas : Bool) : List Char → Prop
  | last {c : Char} (h : isDigit c = true) : DigitRun isDigit commas [c]
  | digit {c : Char} {cs : List Char} (h : isDigit c = true) (hcs : DigitRun isDigit commas cs) :
      DigitRun isDigit commas (c :: cs)
  | comma {c : Char} {cs : List Char} (hcommas : commas = true) (h : isDigit c = true)
      (hcs : DigitRun isDigit commas cs) : DigitRun isDigit commas (c :: ',' :: cs)

theorem digitRun_of_forall {isDigit : Char → Bool} (commas : Bool) {cs : List Char}
    (hne : cs ≠ []) (h : ∀ c ∈ cs, isDigit c = true) : DigitRun isDigit commas cs := by
  induction cs with
  | nil => exact absurd rfl hne
  | cons c cs ih =>
      rw [List.forall_mem_cons] at h
      cases cs with
      | nil => exact .last h.1
      | cons d ds => exact .digit h.1 (ih (by simp) h.2)

theorem digitRun_groupDigits {isDigit : Char → Bool} {cs : List Char} (hne : cs ≠ [])
    (h : ∀ c ∈ cs, isDigit c = true) : DigitRun isDigit true (groupDigits cs) := by
  induction cs with
  | nil => exact absurd rfl hne
  | cons c cs ih =>
      rw [List.forall_mem_cons] at h
      cases cs with
      | nil => exact .last h.1
      | cons d ds =>
          have hrest := ih (by simp) h.2
          rw [groupDigits]
          split
          · exact .comma rfl h.1 hrest
          · exact .digit h.1 hrest

/-- What stands behind the sign and the symbol of a numeral: a run of digits, which the pattern may
have grouped, a fraction, and an exponent or a per cent sign. -/
inductive ShowsDigits (p : NumberPattern) : List Char → Prop
  | intro {whole fraction suffix : List Char}
      (hwhole : DigitRun (isRadixDigit p.style)
        (p.grouping && !p.style.any (·.radix?.isSome)) whole)
      (hfraction : ∀ c ∈ fraction, c.isDigit = true)
      (hinteger : fraction ≠ [] → p.style.any (·.isInteger) = false)
      (hsuffix : IsSuffix p.style suffix) :
      ShowsDigits p (whole ++ pointed fraction ++ suffix)

theorem showsDigits_digitChars {p : NumberPattern} {m : Magnitude}
    (h : p.InRange (.finite false m)) : p.ShowsDigits (p.digitChars m) := by
  obtain ⟨style, hstyle, hsome, hchars⟩ | ⟨hradix, a, suffix, ha, hsuffix, hfraction, -, hchars⟩ :=
    digitChars_cases h
  · have hinteger := isInteger_of_radix? hsome
    have hrun := digitRun_of_forall (p.grouping && !p.style.any (·.radix?.isSome))
      (integerChars_ne_nil style m) fun c hc => isRadixDigit_of_mem_integerChars hinteger hc
    have hbare : IsSuffix p.style [] := by
      refine .bare fun hpercent => ?_
      rw [hstyle, Option.some.injEq] at hpercent
      rw [hpercent] at hinteger
      cases hinteger
    rw [← hstyle] at hrun
    have hnone : ∀ c ∈ ([] : List Char), c.isDigit = true := nofun
    have hdigits := ShowsDigits.intro hrun hnone (absurd rfl) hbare
    rw [hchars]
    simpa [pointed] using hdigits
  · have hdigits : ∀ c ∈ a.whole, isRadixDigit p.style c = true := by
      intro c hc
      rw [isRadixDigit_of_radix?_eq_none hradix]
      exact ha.whole c hc
    have hsubset := fraction_finished_subset p a
    rw [hchars]
    refine .intro ?_ (fun c hc => ha.fraction c (hsubset hc))
      (fun hne => hfraction fun hnil => hne ?_) hsuffix
    · rw [whole_finished, hradix, Bool.not_false, Bool.and_true]
      cases p.grouping with
      | false => exact digitRun_of_forall _ ha.whole_ne_nil hdigits
      | true => exact digitRun_groupDigits ha.whole_ne_nil hdigits
    · rw [hnil] at hsubset
      exact List.subset_nil.1 hsubset

/-- A numeral: an optional sign, the symbol of the pattern, and digits. -/
def IsNumeral (p : NumberPattern) (cs : List Char) : Prop :=
  ∃ sign digits, cs = sign ++ p.symbolChars ++ digits ∧
    IsSignText sign ∧ p.ShowsDigits digits

theorem percentChars_of_infinite (precision : Option Nat) {m : Magnitude}
    (h : ¬(Double.finite false m).timesHundred.isFinite = true) :
    percentChars precision m = ['i', 'n', 'f', '%'] := by
  unfold percentChars
  generalize (Double.finite false m).timesHundred = x at h
  cases x with
  | nan | infinite => rfl
  | finite => exact absurd rfl h

theorem digitChars_of_not_inRange {p : NumberPattern} {m : Magnitude}
    (h : ¬p.InRange (.finite false m)) : p.digitChars m = ['i', 'n', 'f', '%'] := by
  obtain ⟨hstyle, hinfinite⟩ := Classical.not_imp.1 h
  have hstyled : p.styledChars m = ['i', 'n', 'f', '%'] := by
    rw [styledChars, hstyle]
    exact percentChars_of_infinite p.precision hinfinite
  have htrim : trimFraction ['i', 'n', 'f', '%'] = ['i', 'n', 'f', '%'] := by decide
  have hgroup : groupThousands ['i', 'n', 'f', '%'] = ['i', 'n', 'f', '%'] := by decide
  simp only [digitChars, hstyled, htrim, hgroup, ite_self]

theorem DigitRun.mem {isDigit : Char → Bool} {commas : Bool} {cs : List Char}
    (h : DigitRun isDigit commas cs) {c : Char} (hc : c ∈ cs) : isDigit c = true ∨ c = ',' := by
  induction h with
  | last h =>
      rw [List.mem_singleton.1 hc]
      exact .inl h
  | digit h _ ih =>
      obtain rfl | hc := List.mem_cons.1 hc
      · exact .inl h
      · exact ih hc
  | comma _ h _ ih =>
      obtain rfl | hc := List.mem_cons.1 hc
      · exact .inl h
      obtain rfl | hc := List.mem_cons.1 hc
      · exact .inr rfl
      · exact ih hc

/-- No numeral in per cent has a letter. -/
theorem IsNumeral.not_mem_letter {p : NumberPattern} (hstyle : p.style = some .percent)
    {cs : List Char} (h : p.IsNumeral cs) : 'i' ∉ cs := by
  obtain ⟨sign, digits, rfl, hsign, hdigits⟩ := h
  have hsymbol : 'i' ∉ p.symbolChars := by
    rw [symbolChars, hstyle]
    split <;> decide
  have hshown : 'i' ∉ digits := by
    cases hdigits with
    | intro hwhole hfraction _ hsuffix =>
        rw [List.mem_append, List.mem_append]
        rintro ((hmem | hmem) | hmem)
        · obtain hdigit | hcomma := hwhole.mem hmem
          · rw [hstyle] at hdigit
            cases hdigit
          · cases hcomma
        · obtain hpoint | hmem := mem_pointed hmem
          · cases hpoint
          · cases hfraction _ hmem
        · cases hsuffix with
          | bare hpercent | exponent hpercent => exact hpercent hstyle
          | percent => exact absurd hmem (by decide)
  rw [List.mem_append, List.mem_append]
  rintro ((hmem | hmem) | hmem)
  · obtain rfl | ⟨c, hc, rfl⟩ := hsign
    · cases hmem
    · rw [← List.mem_singleton.1 hmem] at hc
      cases hc
  · exact hsymbol hmem
  · exact hshown hmem

/-- Without a width, a finite number is written as a numeral. The only exception is a number that
is to be shown in per cent and a hundred times which is out of range. -/
theorem format_isNumeral_iff {p : NumberPattern} (hwidth : p.width = none) (negative : Bool)
    (m : Magnitude) :
    p.IsNumeral (p.format (.finite negative m)).toList ↔ p.InRange (.finite negative m) := by
  obtain ⟨sign, hsign, hchars⟩ := exists_sign_format hwidth negative m
  rw [hchars, inRange_unsigned]
  constructor
  · intro h
    by_contra hrange
    have hstyle := (Classical.not_imp.1 hrange).1
    refine h.not_mem_letter hstyle ?_
    rw [digitChars_of_not_inRange hrange]
    simp
  · intro hrange
    exact ⟨sign, _, rfl, hsign, showsDigits_digitChars hrange⟩

/-- The number 1234.5 in per cent, with everything that a pattern can put around its digits. -/
theorem format_isNumeral_grouped :
    let p : NumberPattern :=
      { sign := some .plus, symbol := some .currency, grouping := true, precision := some 2,
        trim := true, style := some .percent }
    let m : Magnitude := ⟨5429388417957888, 1032, by decide, by decide, .inr (by decide)⟩
    parse "+$,.2~%" = .ok p ∧ Double.ofText? "1234.5".toList = some (.finite false m) ∧
      p.width = none ∧ p.InRange (.finite false m) ∧
      p.format (.finite false m) = "+$123,450%" ∧ p.IsNumeral "+$123,450%".toList := by
  intro p m
  have hrange : p.InRange (.finite false m) := fun _ => by decide +kernel
  have hshown : p.format (.finite false m) = "+$123,450%" := by decide +kernel
  refine ⟨by decide +kernel, by decide +kernel, rfl, hrange, hshown, ?_⟩
  rw [← hshown]
  exact (format_isNumeral_iff rfl false m).2 hrange

/-- In per cent, the greatest numbers are not written as numerals: their hundredfold is out of
range. -/
theorem format_percent_overflow :
    let p : NumberPattern := { style := some .percent }
    let m : Magnitude := ⟨5010420900022432, 2045, by decide, by decide, .inr (by decide)⟩
    parse "%" = .ok p ∧ Double.ofText? "1e308".toList = some (.finite false m) ∧
      p.width = none ∧ p.format (.finite false m) = "inf%" ∧
      ¬p.IsNumeral (p.format (.finite false m)).toList := by
  intro p m
  have hshown : p.format (.finite false m) = "inf%" := by decide +kernel
  refine ⟨by decide +kernel, by decide +kernel, rfl, hshown, fun hnumeral => ?_⟩
  refine hnumeral.not_mem_letter rfl ?_
  rw [hshown]
  decide +kernel

end TextTemplate.NumberPattern
