import Mathlib.Data.List.DropRight
import TextTemplate.Proofs.NumberFields
import TextTemplate.Proofs.ZeroSigns

/-!
How numerals are laid out. Every style but those of another radix writes a mantissa, which is
digits with a fraction behind a point, and a suffix, which is an exponent or the per cent sign.
Trimming shortens the fraction and grouping puts commas into the whole part, and neither touches
anything else. Only a number that is to be shown in per cent has no such layout, if a hundred times
that number is out of range.
-/
namespace TextTemplate

/-- Digits, and a point in front of the fraction if there is one. -/
structure Mantissa where
  whole : List Char
  fraction : List Char

namespace Mantissa

def pointed : List Char → List Char
  | [] => []
  | c :: cs => '.' :: c :: cs

def chars (a : Mantissa) : List Char := a.whole ++ pointed a.fraction

structure IsDecimal (a : Mantissa) : Prop where
  whole_ne_nil : a.whole ≠ []
  whole : ∀ c ∈ a.whole, c.isDigit = true
  fraction : ∀ c ∈ a.fraction, c.isDigit = true

/-- The mantissa without the zeros at the end of its fraction. -/
def trimmed (a : Mantissa) : Mantissa := ⟨a.whole, a.fraction.rdropWhile (· == '0')⟩

def grouped (a : Mantissa) : Mantissa := ⟨NumberPattern.groupDigits a.whole, a.fraction⟩

theorem IsDecimal.trimmed {a : Mantissa} (h : a.IsDecimal) : a.trimmed.IsDecimal :=
  ⟨h.whole_ne_nil, h.whole, fun c hc => h.fraction c ((List.rdropWhile_prefix _ _).subset hc)⟩

theorem pointed_of_ne_nil {digits : List Char} (h : digits ≠ []) :
    pointed digits = '.' :: digits := by
  cases digits with
  | nil => exact absurd rfl h
  | cons c cs => rfl

theorem mem_pointed {digits : List Char} {c : Char} (h : c ∈ pointed digits) :
    c = '.' ∨ c ∈ digits := by
  cases digits with
  | nil => cases h
  | cons d ds => exact List.mem_cons.1 h

/-- The mantissa of `n / 10 ^ places` with that many places. -/
def ofPlaces (n places : Nat) : Mantissa :=
  ⟨Nat.toDigits 10 (n / 10 ^ places),
    if places = 0 then [] else Decimal.padded places (n % 10 ^ places)⟩

theorem isDecimal_ofPlaces (n places : Nat) : (ofPlaces n places).IsDecimal where
  whole_ne_nil := Nat.toDigits_ne_nil
  whole _ hc := isDigit_of_mem_toDigits hc
  fraction c hc := by
    simp only [ofPlaces] at hc
    split at hc
    · cases hc
    · exact Decimal.isDigit_of_mem_padded hc

theorem chars_ofPlaces (n places : Nat) :
    (ofPlaces n places).chars = Decimal.withPlaces n places := by
  rw [chars, ofPlaces, Decimal.withPlaces]
  by_cases hzero : places = 0
  · simp [hzero, pointed]
  · rw [if_neg hzero, if_neg hzero, pointed_of_ne_nil]
    simp [Decimal.padded]

/-- The mantissa with one digit in front of the point. -/
def ofDigits (digits : List Char) : Mantissa := ⟨digits.take 1, digits.drop 1⟩

theorem isDecimal_ofDigits {digits : List Char} (hne : digits ≠ [])
    (hdigits : ∀ c ∈ digits, c.isDigit = true) : (ofDigits digits).IsDecimal where
  whole_ne_nil := by simpa [ofDigits] using hne
  whole c hc := hdigits c (List.mem_of_mem_take hc)
  fraction c hc := hdigits c (List.mem_of_mem_drop hc)

theorem chars_ofDigits (marker : Char) (digits : List Char) (e : Int) :
    (ofDigits digits).chars ++ marker :: Decimal.signedExponent e =
      Decimal.scientificDigits marker digits e := by
  have hpoint : pointed (digits.drop 1) =
      if digits.length ≤ 1 then [] else '.' :: digits.drop 1 := by
    split
    · rw [List.drop_of_length_le ‹_›]
      rfl
    · rw [pointed_of_ne_nil]
      exact fun hnil => absurd (List.drop_eq_nil_iff.1 hnil) ‹_›
  rw [chars, ofDigits, hpoint]
  rfl

theorem IsDecimal.mem_chars {a : Mantissa} (h : a.IsDecimal) {c : Char} (hc : c ∈ a.chars) :
    c.isDigit = true ∨ c = '.' := by
  obtain hc | hc := List.mem_append.1 hc
  · exact .inl (h.whole c hc)
  · exact (mem_pointed hc).symm.imp_left (h.fraction c)

end Mantissa

namespace NumberPattern
open Mantissa

theorem isSuffixStart_of_isDigit {c : Char} (h : c.isDigit = true) : isSuffixStart c = false := by
  rw [← Bool.not_eq_true]
  intro hstart
  simp only [isSuffixStart, Bool.or_eq_true, beq_iff_eq] at hstart
  obtain (rfl | rfl) | rfl := hstart <;> cases h

/-- Nothing, or the beginning of a suffix. -/
def StartsSuffix (cs : List Char) : Prop := ∀ c ∈ cs.head?, isSuffixStart c = true

theorem startsSuffix_nil : StartsSuffix [] := nofun

theorem startsSuffix_cons {c : Char} (h : isSuffixStart c = true) (cs : List Char) :
    StartsSuffix (c :: cs) := by
  intro d hd
  cases hd
  exact h

theorem StartsSuffix.isDigit_head {cs : List Char} (h : StartsSuffix cs) :
    ∀ c ∈ cs.head?, c.isDigit = false := by
  intro c hc
  rw [← Bool.not_eq_true]
  intro hdigit
  have hstart := h c hc
  rw [isSuffixStart_of_isDigit hdigit] at hstart
  cases hstart

/-- The zeros that end a fraction go, and the point goes with the last of the fraction. -/
theorem rdropWhile_point {whole fraction : List Char} (hwhole : '.' ∉ whole)
    (hfraction : ∀ c ∈ fraction, c.isDigit = true) :
    ((whole ++ '.' :: fraction).rdropWhile (· == '0')).rdropWhile (· == '.') =
      whole ++ pointed (fraction.rdropWhile (· == '0')) := by
  induction fraction using List.reverseRecOn with
  | nil =>
      have hlast : whole.rdropWhile (· == '.') = whole := by
        rw [List.rdropWhile_eq_self_iff]
        intro hne hpoint
        have hmem := List.getLast_mem hne
        rw [eq_of_beq hpoint] at hmem
        exact hwhole hmem
      rw [List.rdropWhile_concat_neg _ _ _ (by decide), List.rdropWhile_concat_pos _ _ _ rfl, hlast]
      exact (List.append_nil _).symm
  | append_singleton front c ih =>
      have hfront := ih fun d hd => hfraction d (List.mem_append_left _ hd)
      have hc := hfraction c (by simp)
      rw [← List.cons_append, ← List.append_assoc]
      by_cases hzero : (c == '0') = true
      · rw [List.rdropWhile_concat_pos (· == '0') _ c hzero,
          List.rdropWhile_concat_pos (· == '0') _ c hzero, hfront]
      · have hpoint : ¬(c == '.') = true := by
          intro heq
          rw [eq_of_beq heq] at hc
          cases hc
        rw [List.rdropWhile_concat_neg (· == '0') _ c hzero,
          List.rdropWhile_concat_neg (· == '0') _ c hzero,
          List.rdropWhile_concat_neg (· == '.') _ c hpoint, pointed_of_ne_nil (by simp)]
        simp

/-- Where the suffix begins is found, if nothing in front of it looks like one. -/
theorem split_suffix {front suffix : List Char} (hfront : ∀ c ∈ front, isSuffixStart c = false)
    (hsuffix : StartsSuffix suffix) :
    (front ++ suffix).takeWhile (fun c => !isSuffixStart c) = front ∧
      (front ++ suffix).dropWhile (fun c => !isSuffixStart c) = suffix := by
  apply takeWhile_append_stop
  · intro c hc
    rw [hfront c hc]
    rfl
  · intro c hc
    rw [hsuffix c hc]
    rfl

theorem not_isSuffixStart_of_mem {a : Mantissa} (h : a.IsDecimal)
    {c : Char} (hc : c ∈ a.chars) : isSuffixStart c = false := by
  obtain hdigit | rfl := h.mem_chars hc
  · exact isSuffixStart_of_isDigit hdigit
  · rfl

/-- Trimming looks for the fraction between the only point and the suffix. -/
theorem trimFraction_point {whole fraction suffix : List Char}
    (hwhole : ∀ c ∈ whole, c ≠ '.' ∧ isSuffixStart c = false)
    (hfraction : ∀ c ∈ fraction, c.isDigit = true) (hsuffix : StartsSuffix suffix) :
    trimFraction (whole ++ '.' :: fraction ++ suffix) =
      whole ++ pointed (fraction.rdropWhile (· == '0')) ++ suffix := by
  have hbody : ∀ c ∈ whole ++ '.' :: fraction, isSuffixStart c = false := by
    intro c hc
    obtain hc | hc := List.mem_append.1 hc
    · exact (hwhole c hc).2
    · obtain rfl | hc := List.mem_cons.1 hc
      · rfl
      · exact isSuffixStart_of_isDigit (hfraction c hc)
  obtain ⟨htake, hdrop⟩ := split_suffix hbody hsuffix
  have hdropped := rdropWhile_point (fun hmem => (hwhole '.' hmem).1 rfl) hfraction
  rw [List.rdropWhile, List.rdropWhile, List.reverse_reverse] at hdropped
  simp only [trimFraction, htake, hdrop]
  rw [if_pos (by simp), hdropped]

theorem trimFraction_mantissa {a : Mantissa} (h : a.IsDecimal) {suffix : List Char}
    (hsuffix : StartsSuffix suffix) :
    trimFraction (a.chars ++ suffix) = a.trimmed.chars ++ suffix := by
  have hwhole : ∀ c ∈ a.whole, c ≠ '.' ∧ isSuffixStart c = false := by
    intro c hc
    refine ⟨?_, isSuffixStart_of_isDigit (h.whole c hc)⟩
    rintro rfl
    cases h.whole _ hc
  by_cases hnil : a.fraction = []
  · have htrimmed : a.trimmed.chars = a.chars := by
      rw [Mantissa.trimmed, Mantissa.chars, Mantissa.chars, hnil]
      rfl
    have hchars : a.chars = a.whole := by
      rw [Mantissa.chars, hnil]
      exact List.append_nil _
    have htake := (split_suffix (fun c hc => (hwhole c hc).2) hsuffix).1
    rw [htrimmed, hchars]
    simp only [trimFraction, htake]
    rw [if_neg (by simpa using fun hmem => (hwhole '.' hmem).1 rfl)]
  · rw [Mantissa.chars, pointed_of_ne_nil hnil, trimFraction_point hwhole h.fraction hsuffix]
    rfl

theorem groupThousands_mantissa {a : Mantissa} (h : a.IsDecimal) {suffix : List Char}
    (hsuffix : StartsSuffix suffix) :
    groupThousands (a.chars ++ suffix) = a.grouped.chars ++ suffix := by
  have hstop : ∀ c ∈ (pointed a.fraction ++ suffix).head?, c.isDigit = false := by
    cases a.fraction with
    | nil => exact hsuffix.isDigit_head
    | cons d ds =>
        intro c hc
        cases hc
        rfl
  obtain ⟨htake, hdrop⟩ := takeWhile_append_stop h.whole hstop
  rw [groupThousands, Mantissa.chars, List.append_assoc, htake, hdrop, grouped, Mantissa.chars,
    List.append_assoc]

/-- The letter of the exponents of a style. -/
def exponentMarker (style : Option NumberStyle) : Char :=
  if style = some .expUpper then 'E' else 'e'

/-- What may stand behind the mantissa: an exponent, or the per cent sign of its style. -/
inductive IsSuffix (style : Option NumberStyle) : List Char → Prop
  | bare (hpercent : style ≠ some .percent) : IsSuffix style []
  | exponent (hpercent : style ≠ some .percent) (hinteger : style.any (·.isInteger) = false)
      (e : Int) : IsSuffix style (exponentMarker style :: Decimal.signedExponent e)
  | percent (h : style = some .percent) : IsSuffix style ['%']

theorem isSuffixStart_exponentMarker (style : Option NumberStyle) :
    isSuffixStart (exponentMarker style) = true := by
  rw [exponentMarker]
  split <;> rfl

theorem IsSuffix.startsSuffix {style : Option NumberStyle} {suffix : List Char}
    (h : IsSuffix style suffix) : StartsSuffix suffix := by
  cases h with
  | bare _ => exact startsSuffix_nil
  | exponent _ _ e => exact startsSuffix_cons (isSuffixStart_exponentMarker style) _
  | percent _ => exact startsSuffix_cons rfl _

theorem IsSuffix.eq_nil {style : Option NumberStyle} {suffix : List Char}
    (h : IsSuffix style suffix) (hinteger : style.any (·.isInteger) = true) : suffix = [] := by
  cases h with
  | bare _ => rfl
  | exponent _ hnot _ =>
      rw [hnot] at hinteger
      cases hinteger
  | percent hpercent =>
      rw [hpercent] at hinteger
      cases hinteger

/-- A mantissa and a suffix of the style. The styles of whole numbers have no fraction. -/
inductive Shows (style : Option NumberStyle) : List Char → Prop
  | intro {a : Mantissa} {suffix : List Char} (ha : a.IsDecimal) (hsuffix : IsSuffix style suffix)
      (hfraction : a.fraction ≠ [] → style.any (·.isInteger) = false) :
      Shows style (a.chars ++ suffix)

theorem Shows.trimFraction {style : Option NumberStyle} {cs : List Char} (h : Shows style cs) :
    Shows style (trimFraction cs) := by
  cases h with
  | intro ha hsuffix hfraction =>
      rw [trimFraction_mantissa ha hsuffix.startsSuffix]
      refine .intro ha.trimmed hsuffix fun hne => hfraction fun hnil => hne ?_
      rw [Mantissa.trimmed, hnil]
      rfl

theorem shows_toDigits {style : Option NumberStyle} (hpercent : style ≠ some .percent) (n : Nat) :
    Shows style (Nat.toDigits 10 n) := by
  have hshows := Shows.intro (isDecimal_ofPlaces n 0) (.bare hpercent) (absurd rfl)
  rw [chars_ofPlaces, Decimal.withPlaces, if_pos rfl, List.append_nil] at hshows
  exact hshows

section Fractional

variable {style : Option NumberStyle} (hpercent : style ≠ some .percent)
  (hinteger : style.any (·.isInteger) = false)
include hpercent hinteger

theorem shows_withPlaces (n places : Nat) : Shows style (Decimal.withPlaces n places) := by
  have hshows := Shows.intro (isDecimal_ofPlaces n places) (.bare hpercent) fun _ => hinteger
  rwa [chars_ofPlaces, List.append_nil] at hshows

theorem shows_scientificDigits {digits : List Char} (hne : digits ≠ [])
    (hdigits : ∀ c ∈ digits, c.isDigit = true) (e : Int) :
    Shows style (Decimal.scientificDigits (exponentMarker style) digits e) := by
  rw [← chars_ofDigits]
  exact .intro (isDecimal_ofDigits hne hdigits) (.exponent hpercent hinteger e) fun _ => hinteger

theorem shows_scientific (d : Decimal) : Shows style (d.scientific (exponentMarker style)) :=
  shows_scientificDigits hpercent hinteger Nat.toDigits_ne_nil
    (fun _ hc => isDigit_of_mem_toDigits hc) _

theorem shows_scientificChars (precision : Option Nat) (m : Magnitude) :
    Shows style (scientificChars (exponentMarker style) precision m) := by
  cases precision with
  | none => exact shows_scientific hpercent hinteger _
  | some places =>
      simp only [scientificChars]
      split
      · refine shows_scientificDigits hpercent hinteger (by simp) (fun c hc => ?_) 0
        rw [List.eq_of_mem_replicate hc]
        rfl
      · exact shows_scientific hpercent hinteger _

theorem shows_generalChars (hmarker : exponentMarker style = 'e') (precision : Nat)
    (m : Magnitude) : Shows style (generalChars precision m) := by
  simp only [generalChars]
  split
  · exact shows_withPlaces hpercent hinteger _ _
  · split
    · rw [← hmarker]
      exact shows_scientific hpercent hinteger _
    · exact shows_withPlaces hpercent hinteger _ _

theorem shows_positional (d : Decimal) : Shows style d.positional := by
  rw [Decimal.positional]
  split
  · exact shows_toDigits hpercent _
  · exact shows_withPlaces hpercent hinteger _ _

theorem shows_magnitudeChars (hmarker : exponentMarker style = 'e') (m : Magnitude) :
    Shows style (Double.magnitudeChars m) := by
  rw [Double.magnitudeChars]
  split
  · exact shows_toDigits hpercent 0
  · split
    · exact shows_positional hpercent hinteger _
    · rw [← hmarker]
      exact shows_scientific hpercent hinteger _

end Fractional

theorem exists_mantissa_fixed (m : Magnitude) (places : Nat) :
    ∃ a : Mantissa, a.IsDecimal ∧ m.fixed places = a.chars :=
  ⟨ofPlaces _ places, isDecimal_ofPlaces _ places, (chars_ofPlaces _ places).symm⟩

theorem shows_percentChars (precision : Option Nat) {m : Magnitude}
    (h : (Double.finite false m).timesHundred.isFinite = true) :
    Shows (some .percent) (percentChars precision m) := by
  have hpercent {a : Mantissa} (ha : a.IsDecimal) : Shows (some .percent) (a.chars ++ ['%']) :=
    .intro ha (.percent rfl) fun _ => rfl
  unfold percentChars
  generalize (Double.finite false m).timesHundred = x at h
  cases x with
  | nan | infinite => cases h
  | finite _ hundred =>
      cases precision with
      | some places =>
          obtain ⟨a, ha, hfixed⟩ := exists_mantissa_fixed hundred places
          simp only [hfixed]
          exact hpercent ha
      | none =>
          obtain ⟨a, ha, hfixed⟩ := exists_mantissa_fixed hundred 6
          have htrim := trimFraction_mantissa ha startsSuffix_nil
          rw [List.append_nil, List.append_nil] at htrim
          simp only [hfixed, htrim]
          exact hpercent ha.trimmed

/-- Whether the number can be shown in per cent. -/
def InRange (p : NumberPattern) (x : Double) : Prop :=
  p.style = some .percent → x.timesHundred.isFinite = true

theorem inRange_unsigned {p : NumberPattern} {negative : Bool} {m : Magnitude} :
    p.InRange (.finite negative m) ↔ p.InRange (.finite false m) := by
  simp only [InRange, Double.timesHundred]
  cases Magnitude.nearest? (m.units * 100) 1 <;> rfl

theorem integerChars_decimal (m : Magnitude) :
    integerChars .decimal m = Nat.toDigits 10 (nearestInteger m) := by
  simp only [integerChars, NumberStyle.radix?, Option.getD_none, reduceCtorEq, if_false]

/-- A style that names no other radix shows a magnitude as a mantissa and a suffix. -/
theorem shows_styledChars {p : NumberPattern} {m : Magnitude}
    (hradix : p.style.any (·.radix?.isSome) = false) (hrange : p.InRange (.finite false m)) :
    Shows p.style (p.styledChars m) := by
  obtain ⟨alignment, sign, symbol, zeroPad, width, grouping, precision, trim, style⟩ := p
  cases style with
  | none =>
      cases precision with
      | none => exact shows_magnitudeChars (by simp) rfl rfl m
      | some digits => exact (shows_generalChars (by simp) rfl rfl digits m).trimFraction
  | some style =>
      cases style with
      | binary | octal | hex | hexUpper => cases hradix
      | decimal =>
          have hshows := shows_toDigits (show some NumberStyle.decimal ≠ some .percent by simp)
            (nearestInteger m)
          rw [← integerChars_decimal] at hshows
          exact hshows
      | exp | expUpper => exact shows_scientificChars (by simp) rfl precision m
      | fixed => exact shows_withPlaces (by simp) rfl _ _
      | general => exact shows_generalChars (by simp) rfl rfl _ m
      | percent => exact shows_percentChars precision (hrange rfl)

/-! What trimming and grouping make of the digits. -/

/-- The mantissa as the pattern trims and groups it. -/
def finished (p : NumberPattern) (a : Mantissa) : Mantissa :=
  let a := if p.trim then a.trimmed else a
  if p.grouping then a.grouped else a

theorem whole_finished (p : NumberPattern) (a : Mantissa) :
    (p.finished a).whole = if p.grouping then groupDigits a.whole else a.whole := by
  simp only [finished]
  cases p.grouping <;> cases p.trim <;> rfl

theorem fraction_finished (p : NumberPattern) (a : Mantissa) :
    (p.finished a).fraction =
      if p.trim then a.fraction.rdropWhile (· == '0') else a.fraction := by
  simp only [finished]
  cases p.grouping <;> cases p.trim <;> rfl

theorem fraction_finished_subset (p : NumberPattern) (a : Mantissa) :
    (p.finished a).fraction ⊆ a.fraction := by
  rw [fraction_finished]
  split
  · exact (List.rdropWhile_prefix _ _).subset
  · exact List.Subset.refl _

/-- Grouping puts in nothing but commas. -/
theorem filter_groupDigits {p : Char → Bool} (hcomma : p ',' = false) (cs : List Char) :
    (groupDigits cs).filter p = cs.filter p := by
  induction cs with
  | nil => rfl
  | cons c cs ih =>
      rw [groupDigits]
      split <;> simp only [List.filter_cons, hcomma, Bool.false_eq_true, if_false, ih]

theorem mem_groupDigits_iff {c : Char} (hc : c ≠ ',') {cs : List Char} :
    c ∈ groupDigits cs ↔ c ∈ cs := by
  have hfilter := filter_groupDigits (p := (· == c)) (beq_eq_false_iff_ne.2 hc.symm) cs
  have hmem (ds : List Char) : c ∈ ds.filter (· == c) ↔ c ∈ ds := by simp
  rw [← hmem, hfilter, hmem]

theorem digitChars_mantissa {p : NumberPattern} {m : Magnitude} {a : Mantissa}
    {suffix : List Char} (hradix : p.style.any (·.radix?.isSome) = false)
    (h : p.styledChars m = a.chars ++ suffix) (ha : a.IsDecimal)
    (hsuffix : IsSuffix p.style suffix) :
    p.digitChars m = (p.finished a).chars ++ suffix := by
  simp only [digitChars, finished, h, hradix, Bool.not_false, Bool.and_true]
  cases p.trim with
  | false =>
      cases p.grouping with
      | false => rfl
      | true => exact groupThousands_mantissa ha hsuffix.startsSuffix
  | true =>
      simp only [if_true, trimFraction_mantissa ha hsuffix.startsSuffix]
      cases p.grouping with
      | false => rfl
      | true => exact groupThousands_mantissa ha.trimmed hsuffix.startsSuffix

theorem trimFraction_of_not_mem {cs : List Char} (h : '.' ∉ cs) : trimFraction cs = cs := by
  have hbody : '.' ∉ cs.takeWhile fun c => !isSuffixStart c :=
    fun hmem => h (List.takeWhile_subset _ hmem)
  simp only [trimFraction]
  rw [if_neg (by simpa using hbody)]

/-- Whether a character is a digit of the radix that a style writes. -/
def isRadixDigit (style : Option NumberStyle) (c : Char) : Bool :=
  match style with
  | some .binary => c == '0' || c == '1'
  | some .octal => '0' ≤ c && c ≤ '7'
  | some .hex => c.isDigit || ('a' ≤ c && c ≤ 'f')
  | some .hexUpper => c.isDigit || ('A' ≤ c && c ≤ 'F')
  | _ => c.isDigit

theorem isRadixDigit_of_radix?_eq_none {style : Option NumberStyle}
    (h : style.any (·.radix?.isSome) = false) (c : Char) :
    isRadixDigit style c = c.isDigit := by
  cases style with
  | none => rfl
  | some style =>
      cases style with
      | binary | octal | hex | hexUpper => cases h
      | decimal | exp | expUpper | fixed | general | percent => rfl

theorem styledChars_integer {p : NumberPattern} {style : NumberStyle} (h : p.style = some style)
    (hinteger : style.isInteger = true) (m : Magnitude) :
    p.styledChars m = integerChars style m := by
  rw [styledChars, h]
  cases style with
  | binary | octal | decimal | hex | hexUpper => rfl
  | exp | expUpper | fixed | general | percent => cases hinteger

theorem integerChars_ne_nil (style : NumberStyle) (m : Magnitude) : integerChars style m ≠ [] := by
  simp only [integerChars]
  split
  · simp
  · exact Nat.toDigits_ne_nil

theorem isRadixDigit_of_mem_integerChars {style : NumberStyle} {m : Magnitude} {c : Char}
    (hinteger : style.isInteger = true) (h : c ∈ integerChars style m) :
    isRadixDigit (some style) c = true := by
  have hbase : 1 < style.radix?.getD 10 := by cases style <;> decide
  simp only [integerChars] at h
  split at h
  · rename_i hupper
    subst hupper
    obtain ⟨c, hc, rfl⟩ := List.mem_map.1 h
    obtain ⟨d, hd, rfl⟩ := exists_digit_of_mem_toDigits hbase hc
    have hdigits : ∀ d < 16, isRadixDigit (some .hexUpper) d.digitChar.toUpper = true := by decide
    exact hdigits d hd
  · rename_i hupper
    obtain ⟨d, hd, rfl⟩ := exists_digit_of_mem_toDigits hbase h
    have hdigits : ∀ d < style.radix?.getD 10, isRadixDigit (some style) d.digitChar = true := by
      cases style with
      | hexUpper => exact absurd rfl hupper
      | binary | octal | decimal | hex => decide
      | exp | expUpper | fixed | general | percent => cases hinteger
    exact hdigits d hd

theorem isInteger_of_radix? {style : NumberStyle} (h : style.radix?.isSome = true) :
    style.isInteger = true := by
  cases style with
  | binary | octal | hex | hexUpper => rfl
  | decimal | exp | expUpper | fixed | general | percent => cases h

/-- Whole numbers have no point to trim at, and those in a radix have no thousands to group. -/
theorem digitChars_integer {p : NumberPattern} {style : NumberStyle} (h : p.style = some style)
    (hinteger : style.isInteger = true)
    (hgrouping : p.grouping = false ∨ style.radix?.isSome = true) (m : Magnitude) :
    p.digitChars m = integerChars style m := by
  have hpoint : '.' ∉ integerChars style m := by
    intro hmem
    have hdigit := isRadixDigit_of_mem_integerChars hinteger hmem
    cases style <;> cases hdigit
  have hplain : (p.grouping && !p.style.any (·.radix?.isSome)) = false := by
    obtain hnone | hradix := hgrouping
    · rw [hnone, Bool.false_and]
    · simp [h, hradix]
  simp only [digitChars, styledChars_integer h hinteger, trimFraction_of_not_mem hpoint, ite_self,
    hplain, Bool.false_eq_true, if_false]

/-- The digits that a pattern shows: those of a whole number in the radix of the style, or else a
mantissa, as the pattern trims and groups it, and a suffix. -/
theorem digitChars_cases {p : NumberPattern} {m : Magnitude} (h : p.InRange (.finite false m)) :
    (∃ style, p.style = some style ∧ style.radix?.isSome = true ∧
      p.digitChars m = integerChars style m) ∨
    p.style.any (·.radix?.isSome) = false ∧ ∃ (a : Mantissa) (suffix : List Char),
      a.IsDecimal ∧ IsSuffix p.style suffix ∧
      (a.fraction ≠ [] → p.style.any (·.isInteger) = false) ∧
      p.styledChars m = a.chars ++ suffix ∧ p.digitChars m = (p.finished a).chars ++ suffix := by
  cases hradix : p.style.any (·.radix?.isSome) with
  | true =>
      obtain ⟨style, hstyle, hsome⟩ := (Option.any_eq_true _ _).1 hradix
      exact .inl ⟨style, hstyle, hsome,
        digitChars_integer hstyle (isInteger_of_radix? hsome) (.inr hsome) m⟩
  | false =>
      have hshows := shows_styledChars hradix h
      generalize hcs : p.styledChars m = cs at hshows
      cases hshows with
      | @intro a suffix ha hsuffix hfraction =>
          exact .inr ⟨rfl, a, suffix, ha, hsuffix, hfraction, rfl,
            digitChars_mantissa hradix hcs ha hsuffix⟩

/-- One character at most, and that of a sign. -/
def IsSignText (cs : List Char) : Prop := cs = [] ∨ ∃ c, isSign c = true ∧ cs = [c]

theorem isSignText_signChars (p : NumberPattern) (negative : Bool) :
    IsSignText (p.signChars negative) := by
  rw [signChars]
  split
  · exact .inr ⟨'-', rfl, rfl⟩
  · split
    · exact .inr ⟨'+', rfl, rfl⟩
    · exact .inr ⟨' ', rfl, rfl⟩
    · exact .inl rfl

/-- Without a width, a finite number is its sign, its symbol and its digits, and it has a minus if
it is less than zero and not shown as zero. -/
theorem toList_format_finite {p : NumberPattern} (hwidth : p.width = none) (negative : Bool)
    (m : Magnitude) :
    (p.format (.finite negative m)).toList =
      (if (Double.finite negative m).isNegative = true ∧ p.showsNonzero m = true then ['-']
        else p.signChars false) ++ p.symbolChars ++ p.digitChars m := by
  have hsign : p.signChars (negative && p.showsNonzero m) =
      if (Double.finite negative m).isNegative = true ∧ p.showsNonzero m = true then ['-']
        else p.signChars false := by
    cases hzero : m.isZero with
    | false =>
        cases negative <;> cases p.showsNonzero m <;> simp [Double.isNegative, hzero, signChars]
    | true =>
        obtain rfl := Magnitude.eq_zero_of_isZero hzero
        simp [showsNonzero_zero]
  rw [format, String.toList_ofList, formatChars_of_length_le, formatChars_unpadded_finite, hsign]
  rw [hwidth]
  exact Nat.zero_le _

theorem isSignText_minus (p : NumberPattern) (minus : Prop) [Decidable minus] :
    IsSignText (if minus then ['-'] else p.signChars false) := by
  split
  · exact .inr ⟨'-', rfl, rfl⟩
  · exact isSignText_signChars p false

theorem exists_sign_format {p : NumberPattern} (hwidth : p.width = none) (negative : Bool)
    (m : Magnitude) : ∃ sign, IsSignText sign ∧
      (p.format (.finite negative m)).toList = sign ++ p.symbolChars ++ p.digitChars m :=
  ⟨_, isSignText_minus p _, toList_format_finite hwidth negative m⟩

end NumberPattern
end TextTemplate
