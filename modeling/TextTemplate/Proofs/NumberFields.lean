import TextTemplate.NumberPattern.Format
import TextTemplate.NumberPattern.Parser
import TextTemplate.Proofs.NumberReadBack

/-!
Fields of numbers. Width, fill and zero padding of a pattern change nothing of a number that takes
up its field, and else they fill the field exactly: zeros stand behind the sign and the symbol of a
finite number, and everything else is filled up on the sides that the alignment says.
-/
namespace TextTemplate.NumberPattern

/-- The pattern with no field to fill. -/
def unpadded (p : NumberPattern) : NumberPattern := { p with zeroPad := false, width := none }

def isSign (c : Char) : Bool := c == '-' || c == '+' || c == ' '

/-- A character of a sign, or the symbol of a currency. -/
def isLead (c : Char) : Bool := isSign c || c == '$'

/-- Neither a sign nor a currency starts this text. -/
def Leadless (cs : List Char) : Prop := ∀ c ∈ cs.head?, isLead c = false

theorem isLead_of_isDigit {c : Char} (h : c.isDigit = true) : isLead c = false := by
  rw [← Bool.not_eq_true]
  intro hlead
  simp only [isLead, isSign, Bool.or_eq_true, beq_iff_eq] at hlead
  obtain ((rfl | rfl) | rfl) | rfl := hlead <;> cases h

theorem isLead_of_isSuffixStart {c : Char} (h : isSuffixStart c = true) : isLead c = false := by
  simp only [isSuffixStart, Bool.or_eq_true, beq_iff_eq] at h
  obtain (rfl | rfl) | rfl := h <;> rfl

theorem leadless_nil : Leadless [] := nofun

theorem leadless_of_forall {cs : List Char} (h : ∀ c ∈ cs, isLead c = false) : Leadless cs :=
  fun c hc => h c (List.mem_of_mem_head? hc)

theorem leadless_cons {c : Char} (h : isLead c = false) (cs : List Char) : Leadless (c :: cs) := by
  intro d hd
  cases hd
  exact h

theorem Leadless.append {cs ds : List Char} (h : Leadless cs) (h' : Leadless ds) :
    Leadless (cs ++ ds) := by
  cases cs with
  | nil => exact h'
  | cons c cs => exact leadless_cons (h c rfl) _

theorem leadless_front {front cs : List Char} (hfront : front <+: cs) (h : Leadless cs) :
    Leadless front := by
  obtain ⟨rest, rfl⟩ := hfront
  cases front with
  | nil => exact leadless_nil
  | cons c front => exact leadless_cons (h c rfl) _

/-! No digits start with a sign, whatever the style. -/

theorem leadless_toDigits (n : Nat) : Leadless (Nat.toDigits 10 n) :=
  leadless_of_forall fun _ hc => isLead_of_isDigit (isDigit_of_mem_toDigits hc)

theorem leadless_withPlaces (n places : Nat) : Leadless (Decimal.withPlaces n places) := by
  rw [Decimal.withPlaces]
  split
  · exact leadless_toDigits n
  · exact (leadless_toDigits _).append (leadless_cons rfl _)

theorem leadless_fixed (m : Magnitude) (places : Nat) : Leadless (m.fixed places) :=
  leadless_withPlaces _ _

theorem leadless_positional (d : Decimal) : Leadless d.positional := by
  rw [Decimal.positional]
  split
  · exact leadless_toDigits _
  · exact leadless_withPlaces _ _

theorem leadless_scientificDigits {marker : Char} (hmarker : isSuffixStart marker = true)
    {digits : List Char} (h : Leadless digits) (exponent : Int) :
    Leadless (Decimal.scientificDigits marker digits exponent) := by
  have htail : Leadless (if digits.length ≤ 1 then [] else '.' :: digits.drop 1) := by
    split
    · exact leadless_nil
    · exact leadless_cons rfl _
  exact ((leadless_front (List.take_prefix 1 digits) h).append htail).append
    (leadless_cons (isLead_of_isSuffixStart hmarker) _)

theorem leadless_scientific {marker : Char} (hmarker : isSuffixStart marker = true) (d : Decimal) :
    Leadless (d.scientific marker) :=
  leadless_scientificDigits hmarker (leadless_toDigits _) _

theorem leadless_scientificChars {marker : Char} (hmarker : isSuffixStart marker = true)
    (precision : Option Nat) (m : Magnitude) : Leadless (scientificChars marker precision m) := by
  cases precision with
  | none => exact leadless_scientific hmarker _
  | some places =>
    simp only [scientificChars]
    split
    · refine leadless_scientificDigits hmarker (leadless_of_forall fun c hc => ?_) 0
      rw [List.eq_of_mem_replicate hc]
      decide
    · exact leadless_scientific hmarker _

theorem leadless_generalChars (precision : Nat) (m : Magnitude) :
    Leadless (generalChars precision m) := by
  simp only [generalChars]
  split
  · exact leadless_fixed _ _
  · split
    · exact leadless_scientific rfl _
    · exact leadless_fixed _ _

theorem leadless_trimFraction {cs : List Char} (h : Leadless cs) : Leadless (trimFraction cs) := by
  simp only [trimFraction]
  split
  · -- What is left of the digits is their front, and a marker may stand behind it.
    refine (leadless_front ?_ h).append fun c hc => ?_
    · refine List.IsPrefix.trans ?_ (List.takeWhile_prefix (fun c => !isSuffixStart c))
      rw [← List.reverse_suffix, List.reverse_reverse]
      exact (List.dropWhile_suffix _).trans (List.dropWhile_suffix _)
    · have hhead := List.head?_dropWhile_not (fun c => !isSuffixStart c) cs
      rw [Option.mem_def.1 hc] at hhead
      exact isLead_of_isSuffixStart (by simpa using hhead)
  · exact h

theorem leadless_percentChars (precision : Option Nat) (m : Magnitude) :
    Leadless (percentChars precision m) := by
  have hword : Leadless ['i', 'n', 'f', '%'] := leadless_cons (by decide) _
  unfold percentChars
  generalize (Double.finite false m).timesHundred = x
  cases x with
  | nan | infinite => exact hword
  | finite _ m =>
      refine Leadless.append ?_ (leadless_cons (by decide) [])
      cases precision with
      | none => exact leadless_trimFraction (leadless_fixed _ _)
      | some places => exact leadless_fixed _ _

theorem leadless_integerChars (style : NumberStyle) (m : Magnitude) :
    Leadless (integerChars style m) := by
  have hdigits : ∀ d < 16, isLead d.digitChar = false ∧ isLead d.digitChar.toUpper = false := by
    decide
  have hbase : 1 < style.radix?.getD 10 ∧ style.radix?.getD 10 ≤ 16 := by
    cases style <;> decide
  have hmem : ∀ c ∈ Nat.toDigits (style.radix?.getD 10) (nearestInteger m),
      isLead c = false ∧ isLead c.toUpper = false := by
    intro c hc
    obtain ⟨d, hd, rfl⟩ := exists_digit_of_mem_toDigits hbase.1 hc
    exact hdigits d (by omega)
  simp only [integerChars]
  split
  · refine leadless_of_forall ?_
    rw [List.forall_mem_map]
    exact fun c hc => (hmem c hc).2
  · exact leadless_of_forall fun c hc => (hmem c hc).1

theorem leadless_magnitudeChars (m : Magnitude) : Leadless (Double.magnitudeChars m) := by
  rw [Double.magnitudeChars]
  split
  · exact leadless_cons rfl _
  · split
    · exact leadless_positional _
    · exact leadless_scientific rfl _

theorem leadless_styledChars (p : NumberPattern) (m : Magnitude) : Leadless (p.styledChars m) := by
  obtain ⟨alignment, sign, symbol, zeroPad, width, grouping, precision, trim, style⟩ := p
  cases style with
  | none =>
      cases precision with
      | none => exact leadless_magnitudeChars m
      | some digits => exact leadless_trimFraction (leadless_generalChars digits m)
  | some style =>
      cases style with
      | binary => exact leadless_integerChars .binary m
      | octal => exact leadless_integerChars .octal m
      | decimal => exact leadless_integerChars .decimal m
      | hex => exact leadless_integerChars .hex m
      | hexUpper => exact leadless_integerChars .hexUpper m
      | exp | expUpper => exact leadless_scientificChars rfl precision m
      | fixed => exact leadless_fixed m _
      | general => exact leadless_generalChars _ m
      | percent => exact leadless_percentChars precision m

theorem head_groupThousands (cs : List Char) : (groupThousands cs).head? = cs.head? := by
  have hgroup (ds : List Char) : (groupDigits ds).head? = ds.head? := by
    cases ds with
    | nil => rfl
    | cons d ds =>
        rw [groupDigits]
        split <;> rfl
  rw [groupThousands, List.head?_append, hgroup, ← List.head?_append,
    List.takeWhile_append_dropWhile]

theorem leadless_digitChars (p : NumberPattern) (m : Magnitude) : Leadless (p.digitChars m) := by
  have htrimmed :
      Leadless (if p.trim then trimFraction (p.styledChars m) else p.styledChars m) := by
    split
    · exact leadless_trimFraction (leadless_styledChars p m)
    · exact leadless_styledChars p m
  simp only [digitChars]
  split
  · rw [Leadless, head_groupThousands]
    exact htrimmed
  · exact htrimmed

theorem isSign_of_mem_signChars (p : NumberPattern) (negative : Bool) :
    ∀ c ∈ p.signChars negative, isSign c = true := by
  rw [signChars]
  split
  · simp [isSign]
  · split <;> simp [isSign]

/-! Fields are filled by an alignment or by zeros, and only one of the two has something to do. -/

theorem align_of_length_le {p : NumberPattern} {cs : List Char} (h : p.width.getD 0 ≤ cs.length) :
    p.align cs = cs := by
  simp only [align, Nat.sub_eq_zero_of_le h]
  split <;> simp

theorem length_align (p : NumberPattern) (cs : List Char) :
    (p.align cs).length = max (p.width.getD 0) cs.length := by
  simp only [align]
  split <;> simp only [List.length_append, List.length_replicate] <;> omega

theorem formatChars_unpadded_finite (p : NumberPattern) (negative : Bool) (m : Magnitude) :
    p.unpadded.formatChars (.finite negative m) =
      p.signChars (negative && p.showsNonzero m) ++ p.symbolChars ++ p.digitChars m := by
  have hchars : p.unpadded.formatChars (.finite negative m) =
      p.unpadded.align (p.signChars (negative && p.showsNonzero m) ++ p.symbolChars ++
        List.replicate 0 '0' ++ p.digitChars m) := rfl
  rw [hchars, align_of_length_le (Nat.zero_le _), List.replicate_zero, List.append_nil]

theorem formatChars_of_align (p : NumberPattern) {x : Double}
    (h : x.isFinite = false ∨ p.zeroPad = false) :
    p.formatChars x = p.align (p.unpadded.formatChars x) := by
  cases x with
  | nan | infinite negative =>
      exact congrArg p.align (align_of_length_le (Nat.zero_le _)).symm
  | finite negative m =>
      obtain hword | hzero := h
      · cases hword
      · rw [formatChars_unpadded_finite]
        simp [formatChars, zeroCount, hzero]

theorem formatChars_of_zeroPad {p : NumberPattern} (h : p.zeroPad = true) (negative : Bool)
    (m : Magnitude) :
    p.formatChars (.finite negative m) =
      p.signChars (negative && p.showsNonzero m) ++ p.symbolChars ++
        List.replicate
          (p.width.getD 0 - (p.unpadded.formatChars (.finite negative m)).length) '0' ++
        p.digitChars m := by
  rw [formatChars_unpadded_finite]
  simp only [formatChars, zeroCount, h, if_true, List.length_append]
  -- With its zeros the number takes up the field, so nothing is left to align.
  apply align_of_length_le
  simp only [List.length_append, List.length_replicate]
  omega

/-- Either the alignment fills the field or zeros do. -/
theorem align_or_zeroPad (p : NumberPattern) (x : Double) :
    (x.isFinite = false ∨ p.zeroPad = false) ∨
      ∃ negative m, x = .finite negative m ∧ p.zeroPad = true := by
  cases x with
  | nan | infinite => exact .inl (.inl rfl)
  | finite negative m =>
      cases hzero : p.zeroPad with
      | false => exact .inl (.inr rfl)
      | true => exact .inr ⟨negative, m, rfl, rfl⟩

theorem length_formatChars (p : NumberPattern) (x : Double) :
    (p.formatChars x).length = max (p.width.getD 0) (p.unpadded.formatChars x).length := by
  obtain halign | ⟨negative, m, rfl, hzero⟩ := p.align_or_zeroPad x
  · rw [formatChars_of_align p halign, length_align]
  · rw [formatChars_of_zeroPad hzero, formatChars_unpadded_finite]
    simp only [List.length_append, List.length_replicate]
    omega

theorem formatChars_of_length_le {p : NumberPattern} {x : Double}
    (h : p.width.getD 0 ≤ (p.unpadded.formatChars x).length) :
    p.formatChars x = p.unpadded.formatChars x := by
  obtain halign | ⟨negative, m, rfl, hzero⟩ := p.align_or_zeroPad x
  · rw [formatChars_of_align p halign, align_of_length_le h]
  · rw [formatChars_of_zeroPad hzero, Nat.sub_eq_zero_of_le h, formatChars_unpadded_finite,
      List.replicate_zero, List.append_nil]

/-- Let `content` be the number as the pattern without its field writes it. Without a width, or
with one that `content` reaches, nothing changes. Else the width is met exactly: a finite number
of a pattern that asks for zeros has them between its sign and symbol on one side and its digits
on the other, whatever the alignment says, and everything else is filled up around `content`. The
digits start with neither a sign nor a currency, so that there is only one place for the zeros. -/
theorem format_pads (p : NumberPattern) (x : Double) :
    let content := (p.unpadded.format x).toList
    ((∀ width, p.width = some width → width ≤ content.length) →
      p.format x = p.unpadded.format x) ∧
    ∀ width, p.width = some width → content.length < width →
      let missing := width - content.length
      let fill := (p.alignment.bind (·.fill)).getD ' '
      (p.format x).length = width ∧
      (x.isFinite = true → p.zeroPad = true →
        ∃ sign digits, content = sign ++ p.symbolChars ++ digits ∧
          (∀ c ∈ sign, isSign c = true) ∧ Leadless digits ∧
          (p.format x).toList =
            sign ++ p.symbolChars ++ List.replicate missing '0' ++ digits) ∧
      (x.isFinite = false ∨ p.zeroPad = false →
        (p.format x).toList =
          match p.alignment.map (·.side) with
          | some .left => content ++ List.replicate missing fill
          | some .center =>
              List.replicate (missing / 2) fill ++ content ++
                List.replicate (missing - missing / 2) fill
          | some .right | none => List.replicate missing fill ++ content) := by
  simp only [format, String.toList_ofList, String.length_ofList]
  refine ⟨fun hwidth => ?_, fun width hwidth hlt =>
    ⟨?_, fun hfinite hzero => ?_, fun halign => ?_⟩⟩
  · rw [formatChars_of_length_le]
    cases hp : p.width with
    | none => exact Nat.zero_le _
    | some width => exact hwidth width hp
  · rw [length_formatChars, hwidth]
    exact Nat.max_eq_left (Nat.le_of_lt hlt)
  · cases x with
    | nan | infinite => cases hfinite
    | finite negative m =>
        refine ⟨_, _, formatChars_unpadded_finite p negative m, isSign_of_mem_signChars p _,
          leadless_digitChars p m, ?_⟩
        rw [formatChars_of_zeroPad hzero, hwidth]
        rfl
  · rw [formatChars_of_align p halign]
    simp only [align, hwidth, Option.getD_some]
    cases p.alignment with
    | none => rfl
    | some alignment => cases hside : alignment.side <;> simp [hside]

/-- The pattern `*^+$012,.1f` fills its field with zeros for a finite number and with stars
around a word, and a long number it leaves as it is. -/
theorem format_pads_fill :
    let p : NumberPattern :=
      { alignment := some ⟨some '*', .center⟩, sign := some .plus, symbol := some .currency,
        zeroPad := true, width := some 12, grouping := true, precision := some 1,
        style := some .fixed }
    parse "*^+$012,.1f" = .ok p ∧
    p.format (.ofNat 1234567) = p.unpadded.format (.ofNat 1234567) ∧
    (∃ sign digits, "+$1,234.0".toList = sign ++ ['$'] ++ digits ∧
      (∀ c ∈ sign, isSign c = true) ∧ Leadless digits ∧
      (p.format (.ofNat 1234)).toList = sign ++ ['$'] ++ List.replicate 3 '0' ++ digits) ∧
    (p.format .nan).toList = "****+NaN****".toList := by
  intro p
  have hlong : 12 ≤ (p.unpadded.format (.ofNat 1234567)).toList.length := by decide +kernel
  have hshort : (p.unpadded.format (.ofNat 1234)).toList = "+$1,234.0".toList := by decide +kernel
  have hword : (p.unpadded.format .nan).toList = "+NaN".toList := by decide +kernel
  refine ⟨by decide +kernel, (format_pads p _).1 fun width h => ?_, ?_, ?_⟩
  · cases h
    exact hlong
  · have hpads := ((format_pads p (.ofNat 1234)).2 12 rfl (by rw [hshort]; decide)).2.1
      (by decide +kernel) rfl
    rw [hshort] at hpads
    exact hpads
  · have hpads := ((format_pads p .nan).2 12 rfl (by rw [hword]; decide)).2.2 (.inl rfl)
    rw [hword] at hpads
    exact hpads

end TextTemplate.NumberPattern
