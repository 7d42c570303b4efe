import TextTemplate.Proofs.NumeralEdits
import TextTemplate.Proofs.NumeralGrammar

/-!
The flags for grouping and trimming. Both change how a number looks and not which number is seen:
the sign and the symbol in front of the digits and the suffix behind them do not depend on the
flags, words and digits in another radix are left as they are, and the two edits of a mantissa are
independent of each other.
-/
namespace TextTemplate.NumberPattern
open Mantissa Numeral

/-- The pattern with its flags set or unset. -/
def withFlags (p : NumberPattern) (grouping trim : Bool) : NumberPattern :=
  { p with grouping, trim }

/-- The words that stand in the place of digits. -/
def IsWord (cs : List Char) : Prop :=
  cs = ['N', 'a', 'N'] ∨ cs = ['I', 'n', 'f', 'i', 'n', 'i', 't', 'y'] ∨ cs = ['i', 'n', 'f', '%']

theorem IsWord.mem {cs : List Char} (h : IsWord cs) :
    ∀ c ∈ cs, isLead c = false ∧ c.isDigit = false ∧ c ≠ ',' ∧ c ≠ '.' := by
  obtain rfl | rfl | rfl := h <;> simp [isLead, isSign]

/-- What may stand in front of digits to the base ten. -/
inductive IsLeadText : List Char → Prop
  | intro {sign symbol : List Char} (hsign : IsSignText sign)
      (hsymbol : symbol = [] ∨ symbol = ['$']) : IsLeadText (sign ++ symbol)

theorem isLeadText_sign {sign : List Char} (h : IsSignText sign) : IsLeadText sign := by
  have hlead := IsLeadText.intro h (.inl rfl)
  rwa [List.append_nil] at hlead

theorem IsLeadText.mem {lead : List Char} (h : IsLeadText lead) : ∀ c ∈ lead, isLead c = true := by
  obtain ⟨hsign, hsymbol⟩ := h
  intro c hc
  rw [isLead]
  obtain hc | hc := List.mem_append.1 hc
  · obtain rfl | ⟨d, hd, rfl⟩ := hsign
    · cases hc
    · rw [List.mem_singleton.1 hc, hd, Bool.true_or]
  · obtain rfl | rfl := hsymbol
    · cases hc
    · rw [List.mem_singleton.1 hc]
      rfl

/-- What is left of it, without the symbol and without a blank, is a sign or nothing. -/
theorem IsLeadText.filter {lead : List Char} (h : IsLeadText lead) :
    let sign := lead.filter fun c => !isDecoration c
    sign = [] ∨ sign = ['+'] ∨ sign = ['-'] := by
  obtain ⟨hsign, hsymbol⟩ := h
  have hnone : ∀ symbol : List Char, symbol = [] ∨ symbol = ['$'] →
      symbol.filter (fun c => !isDecoration c) = [] := by
    rintro symbol (rfl | rfl) <;> rfl
  simp only [List.filter_append, hnone _ hsymbol, List.append_nil]
  obtain rfl | ⟨c, hc, rfl⟩ := hsign
  · exact .inl rfl
  · simp only [isSign, Bool.or_eq_true, beq_iff_eq] at hc
    obtain (rfl | rfl) | rfl := hc
    · exact .inr (.inr rfl)
    · exact .inr (.inl rfl)
    · exact .inl rfl

/-- Whether a number is shown as a decimal numeral: not in another radix, and not as a word. -/
def ShowsDecimal (p : NumberPattern) (x : Double) : Prop :=
  p.style.any (·.radix?.isSome) = false ∧ x.isFinite = true ∧ p.InRange x

/-- How a number is written, whatever the flags are: as a text that they leave as it is, or as a
mantissa with what stands around it. -/
inductive Layout (p : NumberPattern) (x : Double) : Prop
  | unchanged {text : List Char} (hother : ¬p.ShowsDecimal x) (hcomma : ',' ∉ text)
      (hpoint : '.' ∉ text) (hgroups : p.style.any (·.radix?.isSome) = false → Groups text text)
      (htext : ∀ grouping trim, ((p.withFlags grouping trim).format x).toList = text)
  | numeral {lead suffix : List Char} {a : Mantissa} (hdecimal : p.ShowsDecimal x)
      (hlead : IsLeadText lead) (ha : a.IsDecimal) (hsuffix : IsSuffix p.style suffix)
      (htext : ∀ grouping trim, ((p.withFlags grouping trim).format x).toList =
        lead ++ ((p.withFlags grouping trim).finished a).chars ++ suffix)

theorem symbolChars_cases {p : NumberPattern} (h : p.style.any (·.radix?.isSome) = false) :
    p.symbolChars = [] ∨ p.symbolChars = ['$'] := by
  rw [symbolChars]
  split
  case h_1 => exact .inr rfl
  case h_6 => exact .inl rfl
  all_goals
    -- A symbol of a radix goes with a style of that radix.
    rename_i hstyle
    rw [hstyle] at h
    cases h

theorem mem_symbolChars {p : NumberPattern} : ∀ c ∈ p.symbolChars, c ≠ ',' ∧ c ≠ '.' := by
  rw [symbolChars]
  split <;> simp

theorem of_isLead {c : Char} (h : isLead c = true) :
    c.isDigit = false ∧ isSuffixStart c = false ∧ c ≠ ',' ∧ c ≠ '.' := by
  simp only [isLead, isSign, Bool.or_eq_true, beq_iff_eq] at h
  obtain ((rfl | rfl) | rfl) | rfl := h <;> decide

/-- In a word there is nothing to group and nothing to trim. -/
theorem Layout.word {p : NumberPattern} {x : Double} {lead word : List Char}
    (hother : ¬p.ShowsDecimal x) (hlead : IsLeadText lead) (hword : IsWord word)
    (htext : ∀ grouping trim, ((p.withFlags grouping trim).format x).toList = lead ++ word) :
    Layout p x := by
  have hnone : ∀ c ∈ lead ++ word, c ≠ ',' ∧ c ≠ '.' := by
    intro c hc
    obtain hc | hc := List.mem_append.1 hc
    · exact (of_isLead (hlead.mem c hc)).2.2
    · exact (hword.mem c hc).2.2
  have hcomma : ',' ∉ word := fun hc => (hword.mem _ hc).2.2.1 rfl
  have hrest : ∀ c ∈ word.head?, isLead c = false ∧ c.isDigit = false := by
    intro c hc
    obtain ⟨hlead, hdigit, -⟩ := hword.mem c (List.mem_of_head? hc)
    exact ⟨hlead, hdigit⟩
  have hgroups := Groups.intro hlead.mem (by simp) isGrouping_nil hrest hcomma
  rw [List.flatten_nil, List.intercalate_nil, List.append_nil] at hgroups
  exact .unchanged hother (fun hc => (hnone _ hc).1 rfl) (fun hc => (hnone _ hc).2 rfl)
    (fun _ => hgroups) htext

theorem align_of_width {p : NumberPattern} (h : p.width = none) (cs : List Char) :
    p.align cs = cs := by
  apply align_of_length_le
  rw [h]
  exact Nat.zero_le _

/-- The sign and the symbol do not depend on the flags: whether a number is shown as zero is seen
before anything is trimmed or grouped. -/
theorem exists_sign_withFlags {p : NumberPattern} (hwidth : p.width = none) (negative : Bool)
    (m : Magnitude) : ∃ sign, IsSignText sign ∧ ∀ grouping trim,
      ((p.withFlags grouping trim).format (.finite negative m)).toList =
        sign ++ p.symbolChars ++ (p.withFlags grouping trim).digitChars m :=
  ⟨_, isSignText_minus p ((Double.finite negative m).isNegative = true ∧ p.showsNonzero m = true),
    fun grouping trim => toList_format_finite (p := p.withFlags grouping trim) hwidth negative m⟩

/-- In another radix the digits are those of the integer, in no groups and without a fraction. -/
theorem layout_radix {p : NumberPattern} (hwidth : p.width = none)
    (hradix : p.style.any (·.radix?.isSome) = true) (negative : Bool) (m : Magnitude) :
    Layout p (.finite negative m) := by
  obtain ⟨sign, hsign, htext⟩ := exists_sign_withFlags hwidth negative m
  obtain ⟨style, hstyle, hsome⟩ := (Option.any_eq_true _ _).1 hradix
  have hinteger := isInteger_of_radix? hsome
  have hdigits (grouping trim : Bool) :
      (p.withFlags grouping trim).digitChars m = integerChars style m :=
    digitChars_integer (p := p.withFlags grouping trim) hstyle hinteger (.inr hsome) m
  simp only [hdigits] at htext
  have hmem : ∀ c ∈ sign ++ p.symbolChars ++ integerChars style m, c ≠ ',' ∧ c ≠ '.' := by
    intro c hc
    obtain hc | hc := List.mem_append.1 hc
    · obtain hc | hc := List.mem_append.1 hc
      · exact (of_isLead ((isLeadText_sign hsign).mem c hc)).2.2
      · exact mem_symbolChars c hc
    · have hdigit := isRadixDigit_of_mem_integerChars hinteger hc
      constructor <;> rintro rfl <;> cases style <;> cases hdigit
  have hother : ¬p.style.any (·.radix?.isSome) = false := by simp [hradix]
  exact .unchanged (fun hdecimal => hother hdecimal.1) (fun hc => (hmem _ hc).1 rfl)
    (fun hc => (hmem _ hc).2 rfl) (fun hdecimal => absurd hdecimal hother) htext

/-- A decimal number has a mantissa, but that a percentage may be too large for one. -/
theorem layout_decimal {p : NumberPattern} (hwidth : p.width = none)
    (hradix : p.style.any (·.radix?.isSome) = false) (negative : Bool) (m : Magnitude) :
    Layout p (.finite negative m) := by
  obtain ⟨sign, hsign, htext⟩ := exists_sign_withFlags hwidth negative m
  have hlead := IsLeadText.intro hsign (symbolChars_cases hradix)
  by_cases hrange : p.InRange (.finite false m)
  · have hshows := shows_styledChars hradix hrange
    generalize hcs : p.styledChars m = cs at hshows
    cases hshows with
    | @intro a suffix ha hsuffix _ =>
        refine .numeral ⟨hradix, rfl, inRange_unsigned.2 hrange⟩ hlead ha hsuffix
          fun grouping trim => ?_
        have hdigits := digitChars_mantissa (p := p.withFlags grouping trim) hradix hcs ha hsuffix
        rw [htext, hdigits, List.append_assoc _ _ suffix]
  · refine .word (fun hdecimal => hrange (inRange_unsigned.1 hdecimal.2.2)) hlead
      (.inr (.inr rfl)) fun grouping trim => ?_
    have hdigits := digitChars_of_not_inRange (p := p.withFlags grouping trim) hrange
    rw [htext, hdigits]

theorem layout {p : NumberPattern} (hwidth : p.width = none) (x : Double) : Layout p x := by
  cases x with
  | nan =>
      refine .word (fun hdecimal => Bool.false_ne_true hdecimal.2.1)
        (isLeadText_sign (isSignText_signChars p false)) (.inl rfl) fun grouping trim => ?_
      rw [format, String.toList_ofList]
      exact align_of_width (p := p.withFlags grouping trim) hwidth _
  | infinite negative =>
      refine .word (fun hdecimal => Bool.false_ne_true hdecimal.2.1)
        (isLeadText_sign (isSignText_signChars p negative)) (.inr (.inl rfl))
        fun grouping trim => ?_
      rw [format, String.toList_ofList]
      exact align_of_width (p := p.withFlags grouping trim) hwidth _
  | finite negative m =>
      cases hradix : p.style.any (·.radix?.isSome) with
      | true => exact layout_radix hwidth hradix negative m
      | false => exact layout_decimal hwidth hradix negative m

/-! What the flags do to a mantissa and what stands around it. -/

theorem finished_withFlags (p : NumberPattern) (grouping trim : Bool) (a : Mantissa) :
    (p.withFlags grouping trim).finished a =
      ⟨if grouping then groupDigits a.whole else a.whole,
        if trim then a.fraction.rdropWhile (· == '0') else a.fraction⟩ := by
  cases grouping <;> cases trim <;> rfl

theorem mem_exponent {style : Option NumberStyle} {e : ℤ} :
    ∀ c ∈ exponentMarker style :: Decimal.signedExponent e,
      c.isDigit = true ∨ c ∈ ['e', 'E', '+', '-'] := by
  intro c hc
  obtain rfl | hc := List.mem_cons.1 hc
  · refine .inr ?_
    rw [exponentMarker]
    split <;> decide
  · obtain rfl | hc := List.mem_cons.1 hc
    · refine .inr ?_
      split <;> decide
    · exact .inl (isDigit_of_mem_toDigits hc)

/-- A suffix is a per cent sign, or nothing, or an exponent that can be read. -/
theorem IsSuffix.percent_or_exponent {style : Option NumberStyle} {suffix : List Char}
    (h : IsSuffix style suffix) :
    suffix = ['%'] ∨ (∃ e, readExponent? suffix = some e) ∧
      ∀ c ∈ suffix, c.isDigit = true ∨ c ∈ ['e', 'E', '+', '-'] := by
  cases h with
  | bare _ => exact .inr ⟨⟨0, rfl⟩, nofun⟩
  | exponent _ _ e =>
      have hmarker : exponentMarker style = 'e' ∨ exponentMarker style = 'E' := by
        rw [exponentMarker]
        split <;> simp
      exact .inr ⟨⟨e, readExponent?_signedExponent hmarker e⟩, mem_exponent⟩
  | percent _ => exact .inl rfl

theorem IsSuffix.not_mem {style : Option NumberStyle} {suffix : List Char}
    (h : IsSuffix style suffix) {c : Char} (hc : c = ',' ∨ c = '.') : c ∉ suffix := by
  intro hmem
  obtain rfl | ⟨-, hsuffix⟩ := h.percent_or_exponent
  · obtain rfl | rfl := hc <;> exact absurd hmem (by decide)
  · obtain hdigit | hother := hsuffix c hmem
    · obtain rfl | rfl := hc <;> cases hdigit
    · obtain rfl | rfl := hc <;> exact absurd hother (by decide)

theorem isDecoration_of_isDigit {c : Char} (h : c.isDigit = true) : isDecoration c = false := by
  rw [← Bool.not_eq_true]
  intro hother
  simp only [isDecoration, Bool.or_eq_true, beq_iff_eq] at hother
  obtain ((rfl | rfl) | rfl) | rfl := hother <;> cases h

/-- Of a suffix the exponent is read. -/
theorem IsSuffix.exists_exponent {style : Option NumberStyle} {suffix : List Char}
    (h : IsSuffix style suffix) :
    ∃ e, readExponent? (suffix.filter fun c => !isDecoration c) = some e := by
  obtain rfl | ⟨hread, hsuffix⟩ := h.percent_or_exponent
  · exact ⟨0, rfl⟩
  · have hplain : ∀ c ∈ ['e', 'E', '+', '-'], isDecoration c = false := by
      simp [isDecoration]
    rwa [List.filter_eq_self.2]
    intro c hc
    rw [Bool.not_eq_true']
    exact (hsuffix c hc).elim isDecoration_of_isDigit (hplain c)

theorem mem_whole_finished {p : NumberPattern} {a : Mantissa} (ha : a.IsDecimal) :
    ∀ c ∈ (p.finished a).whole, c.isDigit = true ∨ c = ',' := by
  intro c hc
  rw [whole_finished] at hc
  split at hc
  · by_cases hcomma : c = ','
    · exact .inr hcomma
    · exact .inl (ha.whole c ((mem_groupDigits_iff hcomma).1 hc))
  · exact .inl (ha.whole c hc)

theorem mem_chars_finished {p : NumberPattern} {a : Mantissa} (ha : a.IsDecimal) :
    ∀ c ∈ (p.finished a).chars, c.isDigit = true ∨ c = ',' ∨ c = '.' := by
  intro c hc
  obtain hc | hc := List.mem_append.1 hc
  · exact (mem_whole_finished ha c hc).imp_right .inl
  · obtain hpoint | hc := mem_pointed hc
    · exact .inr (.inr hpoint)
    · exact .inl (ha.fraction c (fraction_finished_subset p a hc))

/-- Without its commas a grouped mantissa is the mantissa again, with the same number whether or not
it was trimmed. -/
theorem exists_mantissa_filter {a : Mantissa} (ha : a.IsDecimal) (p : NumberPattern) (e : ℤ) :
    ∃ b : Mantissa, b.IsDecimal ∧ b.value e = a.value e ∧
      (p.finished a).chars.filter (fun c => !isDecoration c) = b.chars := by
  have hfilter {b : Mantissa} (hb : b.IsDecimal) :
      b.chars.filter (fun c => !isDecoration c) = b.chars := by
    refine List.filter_eq_self.2 fun c hc => ?_
    rw [Bool.not_eq_true']
    obtain hdigit | rfl := hb.mem_chars hc
    · exact isDecoration_of_isDigit hdigit
    · rfl
  have hgrouped {b : Mantissa} (hb : b.IsDecimal) :
      (if p.grouping then b.grouped else b).chars.filter (fun c => !isDecoration c) = b.chars := by
    rw [← hfilter hb]
    split
    · rw [grouped, Mantissa.chars, Mantissa.chars, List.filter_append, List.filter_append,
        filter_groupDigits (by decide)]
    · rfl
  rw [finished]
  cases p.trim with
  | true => exact ⟨a.trimmed, ha.trimmed, a.value_trimmed e, hgrouped ha.trimmed⟩
  | false => exact ⟨a, ha, rfl, hgrouped ha⟩

section Numeral

variable {p : NumberPattern} {lead suffix : List Char} {a : Mantissa} (hlead : IsLeadText lead)
  (ha : a.IsDecimal) (hsuffix : IsSuffix p.style suffix)
include hlead ha hsuffix

theorem comma_not_mem_numeral (trim : Bool) :
    ',' ∉ lead ++ ((p.withFlags false trim).finished a).chars ++ suffix := by
  have hfraction := fraction_finished_subset (p.withFlags false trim) a
  rw [Mantissa.chars, List.mem_append, List.mem_append, List.mem_append]
  rintro ((hmem | hmem | hmem) | hmem)
  · exact (of_isLead (hlead.mem _ hmem)).2.2.1 rfl
  · rw [finished_withFlags] at hmem
    cases ha.whole _ hmem
  · obtain hpoint | hmem := mem_pointed hmem
    · cases hpoint
    · cases ha.fraction _ (hfraction hmem)
  · exact hsuffix.not_mem (.inl rfl) hmem

theorem filter_numeral (trim : Bool) :
    (lead ++ ((p.withFlags true trim).finished a).chars ++ suffix).filter (· != ',') =
      lead ++ ((p.withFlags false trim).finished a).chars ++ suffix := by
  have hplain := filter_comma_of_not_mem (comma_not_mem_numeral hlead ha hsuffix trim)
  have hgroup := filter_groupDigits (p := (· != ',')) (by decide) a.whole
  rw [← hplain]
  simp only [finished_withFlags, Mantissa.chars, List.filter_append, if_true, hgroup,
    Bool.false_eq_true, if_false]

theorem groups_numeral (trim : Bool) :
    Groups (lead ++ ((p.withFlags false trim).finished a).chars ++ suffix)
      (lead ++ ((p.withFlags true trim).finished a).chars ++ suffix) := by
  obtain ⟨groups, hflatten, hchars, hgroups⟩ := exists_grouping a.whole
  have hcomma := comma_not_mem_numeral hlead ha hsuffix trim
  simp only [finished_withFlags, Mantissa.chars, Bool.false_eq_true, if_false, if_true,
    List.append_assoc] at hcomma ⊢
  generalize (if trim = true then a.fraction.rdropWhile (· == '0') else a.fraction) = fraction
    at hcomma ⊢
  have hrest : ∀ c ∈ (pointed fraction ++ suffix).head?, isLead c = false ∧ c.isDigit = false := by
    intro c hc
    cases fraction with
    | nil =>
        have hstart := hsuffix.startsSuffix
        exact ⟨isLead_of_isSuffixStart (hstart c hc), hstart.isDigit_head c hc⟩
    | cons d ds =>
        cases hc
        decide
  have hgrouped := Groups.intro hlead.mem (by rw [hflatten]; exact ha.whole) hgroups hrest
    fun hmem => hcomma (List.mem_append_right _ (List.mem_append_right _ hmem))
  rwa [hflatten, hchars, List.append_assoc, List.append_assoc] at hgrouped

theorem trims_numeral (grouping : Bool) :
    Trims (lead ++ ((p.withFlags grouping false).finished a).chars ++ suffix)
      (lead ++ ((p.withFlags grouping true).finished a).chars ++ suffix) := by
  have hwhole := mem_whole_finished (p := p.withFlags grouping false) ha
  simp only [finished_withFlags, Mantissa.chars, Bool.false_eq_true, if_false, if_true,
    ← List.append_assoc] at hwhole ⊢
  refine trims_pointed (fun c hc => ?_) ha.fraction hsuffix.startsSuffix
    (hsuffix.not_mem (.inr rfl))
  obtain hc | hc := List.mem_append.1 hc
  · obtain ⟨-, hstart, -, hpoint⟩ := of_isLead (hlead.mem c hc)
    exact ⟨hpoint, hstart⟩
  · obtain hdigit | rfl := hwhole c hc
    · refine ⟨?_, isSuffixStart_of_isDigit hdigit⟩
      rintro rfl
      cases hdigit
    · decide

/-- Whatever the flags are, the same number is seen. -/
theorem exists_shownNumber : ∃ number, ∀ grouping trim,
    shownNumber? (lead ++ ((p.withFlags grouping trim).finished a).chars ++ suffix) =
      some number := by
  obtain ⟨e, he⟩ := hsuffix.exists_exponent
  refine ⟨(lead.filter (fun c => !isDecoration c) == ['-'],
    a.value e / if '%' ∈ suffix then 100 else 1), fun grouping trim => ?_⟩
  have hpercent : '%' ∈ lead ++ ((p.withFlags grouping trim).finished a).chars ++ suffix ↔
      '%' ∈ suffix := by
    rw [List.mem_append, or_iff_right]
    intro hmem
    obtain hmem | hmem := List.mem_append.1 hmem
    · cases (of_isLead (hlead.mem _ hmem)).2.1
    · obtain hdigit | hcomma | hpoint := mem_chars_finished ha _ hmem
      · cases hdigit
      · cases hcomma
      · cases hpoint
  obtain ⟨b, hb, hvalue, hchars⟩ := exists_mantissa_filter ha (p.withFlags grouping trim) e
  obtain ⟨numeral, hread, hnegative, hnumber⟩ := read?_signed hlead.filter hb he
  rw [← hchars, ← List.append_assoc, ← List.filter_append, ← List.filter_append] at hread
  simp only [shownNumber?, hread, Option.map_some, hnegative, hnumber, hvalue, hpercent]

end Numeral

/-- Without a width, the flags for grouping and for trimming are cosmetic, each whether or not the
other one is set. With its commas deleted, grouped text is the text without grouping; the commas
stand in the integer part, in front of every group of three digits but one at its beginning, and
there are none in another radix or for a word. Trimmed text is the text without trimming but for the
zeros that end its fraction, and a point that nothing is left behind; both show the same sign and
the same number, and trimming again has no effect. -/
theorem format_cosmetic {p : NumberPattern} (hwidth : p.width = none) (x : Double) :
    let text (p : NumberPattern) := (p.format x).toList
    let plain := text { p with grouping := false }
    let grouped := text { p with grouping := true }
    let full := text { p with trim := false }
    let trimmed := text { p with trim := true }
    (grouped.filter (· != ',') = plain ∧
      (p.style.any (·.radix?.isSome) = true ∨ x.isFinite = false → ',' ∉ grouped) ∧
      (p.style.any (·.radix?.isSome) = false → Groups plain grouped)) ∧
    Trims full trimmed ∧
    shownNumber? trimmed = shownNumber? full ∧
    (p.ShowsDecimal x → ∃ number, shownNumber? full = some number) ∧
    Trims trimmed trimmed ∧ trimFraction trimmed = trimmed := by
  intro text plain grouped full trimmed
  cases layout hwidth x with
  | @unchanged shown hother hcomma hpoint hgroups htext =>
      have hplain : plain = shown := htext false p.trim
      have hgrouped : grouped = shown := htext true p.trim
      have hfull : full = shown := htext p.grouping false
      have htrimmed : trimmed = shown := htext p.grouping true
      rw [hplain, hgrouped, hfull, htrimmed]
      exact ⟨⟨filter_comma_of_not_mem hcomma, fun _ => hcomma, hgroups⟩, .whole hpoint, rfl,
        fun hdecimal => absurd hdecimal hother, .whole hpoint, trimFraction_of_not_mem hpoint⟩
  | numeral hdecimal hlead ha hsuffix htext =>
      have hplain : plain = _ := htext false p.trim
      have hgrouped : grouped = _ := htext true p.trim
      have hfull : full = _ := htext p.grouping false
      have htrimmed : trimmed = _ := htext p.grouping true
      obtain ⟨number, hnumber⟩ := exists_shownNumber hlead ha hsuffix
      have htrims : Trims full trimmed := by
        rw [hfull, htrimmed]
        exact trims_numeral hlead ha hsuffix p.grouping
      refine ⟨⟨?_, fun hother => ?_, fun _ => ?_⟩, htrims, ?_, fun _ => ⟨number, ?_⟩,
        htrims.again, htrims.again.trimFraction_eq⟩
      · rw [hgrouped, hplain]
        exact filter_numeral hlead ha hsuffix p.trim
      · rw [hdecimal.1, hdecimal.2.1] at hother
        obtain hother | hother := hother <;> cases hother
      · rw [hgrouped, hplain]
        exact groups_numeral hlead ha hsuffix p.trim
      · rw [htrimmed, hfull, hnumber, hnumber]
      · rw [hfull, hnumber]

/-- A negative number with a currency, of which both flags change the text. -/
theorem format_cosmetic_both :
    let p : NumberPattern :=
      { sign := some .plus, symbol := some .currency, grouping := true, precision := some 4,
        trim := true, style := some .fixed }
    let x : Double := .finite true ⟨5302425963462656, 1042, by decide, by decide, .inr (by decide)⟩
    let plain := "-$1234567.25".toList
    let grouped := "-$1,234,567.25".toList
    let full := "-$1,234,567.2500".toList
    parse "+$,.4~f" = .ok p ∧ Double.ofText? "-1234567.25".toList = some x ∧ p.width = none ∧
      (p.format x).toList = grouped ∧
      (grouped.filter (· != ',') = plain ∧ Groups plain grouped) ∧ Trims full grouped ∧
      shownNumber? grouped = shownNumber? full ∧
      (∃ number, shownNumber? full = some number) ∧
      Trims grouped grouped ∧ trimFraction grouped = grouped := by
  intro p x plain grouped full
  have hplain : (({ p with grouping := false } : NumberPattern).format x).toList = plain := by
    decide +kernel
  have hfull : (({ p with trim := false } : NumberPattern).format x).toList = full := by
    decide +kernel
  have hgrouped : (p.format x).toList = grouped := by decide +kernel
  have hcommas : (({ p with grouping := true } : NumberPattern).format x).toList = grouped :=
    hgrouped
  have htrimmed : (({ p with trim := true } : NumberPattern).format x).toList = grouped := hgrouped
  have hcosmetic := format_cosmetic (p := p) rfl x
  simp only [hplain, hcommas, hfull, htrimmed] at hcosmetic
  obtain ⟨⟨hfilter, -, hgroups⟩, htrims, hsame, hnumber, hagain⟩ := hcosmetic
  have hdecimal : p.ShowsDecimal x := ⟨rfl, rfl, nofun⟩
  exact ⟨by decide +kernel, by decide +kernel, rfl, hgrouped, ⟨hfilter, hgroups rfl⟩, htrims,
    hsame, hnumber hdecimal, hagain⟩

end TextTemplate.NumberPattern
