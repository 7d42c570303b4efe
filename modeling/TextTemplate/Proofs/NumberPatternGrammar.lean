import Mathlib.Data.List.Induction
import TextTemplate.NumberPattern.Printer
import TextTemplate.Proofs.Preliminaries

/-!
The grammar of number patterns. Each part has a reader, and what the reader answers is equivalent
to an equation: the text is the part as it is written, followed by the rest, and the rest does not
start as the part could. Only digits leave a choice, namely how many zeros stand in front of them.
Chaining the equations says of every text which pattern it is read as, if any.

That a fill comes with a side, and that a pattern has one symbol at most, needs no condition here:
`Alignment` and `Symbol` have no other values.
-/
namespace TextTemplate

namespace Decimal

theorem digitChar_of_isDigit {c : Char} (h : c.isDigit) :
    Nat.digitChar (c.toNat - '0'.toNat) = c := by
  have hrange := Char.isDigit_iff_toNat.1 h
  change 48 ≤ c.toNat ∧ c.toNat ≤ 57 at hrange
  change Nat.digitChar (c.toNat - 48) = c
  refine Char.toNat_inj.1 ?_
  rw [Nat.toNat_digitChar_of_lt_ten (by omega)]
  omega

/-- Digits are those of the number that they write, behind some zeros. -/
theorem exists_eq_replicate_append_toDigits {digits : List Char} (hne : digits ≠ [])
    (h : ∀ c ∈ digits, c.isDigit) :
    ∃ zeros, digits =
      List.replicate zeros '0' ++ Nat.toDigits 10 (Nat.ofDigitChars 10 digits 0) := by
  induction digits using List.reverseRecOn with
  | nil => exact absurd rfl hne
  | append_singleton front c ih =>
      have hc : c.isDigit := h c (by simp)
      have hlt : c.toNat - '0'.toNat < 10 := by
        have hhigh : c.toNat ≤ 57 := (Char.isDigit_iff_toNat.1 hc).2
        change c.toNat - 48 < 10
        omega
      rw [Nat.ofDigitChars_append, Nat.ofDigitChars_cons, Nat.ofDigitChars_nil]
      by_cases hfront : front = []
      · refine ⟨0, ?_⟩
        rw [hfront, Nat.ofDigitChars_nil, Nat.mul_zero, Nat.zero_add,
          Nat.toDigits_of_lt_base hlt, digitChar_of_isDigit hc]
        rfl
      · obtain ⟨zeros, hzeros⟩ := ih hfront fun d hd => h d (by simp [hd])
        generalize Nat.ofDigitChars 10 front 0 = n at hzeros
        cases Nat.eq_zero_or_pos n with
        | inl hn =>
            -- The front is zeros only, so the zero that was its number stands in front as well.
            refine ⟨zeros + 1, ?_⟩
            rw [hn, Nat.toDigits_zero] at hzeros
            rw [hn, Nat.mul_zero, Nat.zero_add, Nat.toDigits_of_lt_base hlt,
              digitChar_of_isDigit hc, List.replicate_succ', hzeros]
        | inr hn =>
            refine ⟨zeros, ?_⟩
            have hdiv : (10 * n + (c.toNat - '0'.toNat)) / 10 = n := by omega
            have hmod : (10 * n + (c.toNat - '0'.toNat)) % 10 = c.toNat - '0'.toNat := by omega
            rw [Nat.toDigits_of_base_le (by decide) (by omega), hdiv, hmod,
              digitChar_of_isDigit hc, hzeros, List.append_assoc]

theorem head_toDigits_ne_zero {n : Nat} (hn : n ≠ 0) : (Nat.toDigits 10 n).head? ≠ some '0' := by
  obtain ⟨d, rest, hd, hlt, hdigits⟩ := exists_toDigits_eq_cons (show 1 < 10 by decide) hn
  have hzero : ∀ d < 10, d ≠ 0 → d.digitChar ≠ '0' := by decide
  rw [hdigits, List.head?_cons]
  exact fun hhead => hzero d hlt hd (Option.some.inj hhead)

end Decimal

theorem Align.ofChar?_eq_some_iff {c : Char} {a : Align} : ofChar? c = some a ↔ c = a.char := by
  constructor
  · intro h
    unfold ofChar? at h
    split at h <;> cases h <;> rfl
  · rintro rfl
    cases a <;> rfl

theorem SignMode.ofChar?_eq_some_iff {c : Char} {s : SignMode} :
    ofChar? c = some s ↔ c = s.char := by
  constructor
  · intro h
    unfold ofChar? at h
    split at h <;> cases h <;> rfl
  · rintro rfl
    cases s <;> rfl

theorem Symbol.ofChar?_eq_some_iff {c : Char} {s : Symbol} : ofChar? c = some s ↔ c = s.char := by
  constructor
  · intro h
    unfold ofChar? at h
    split at h <;> cases h <;> rfl
  · rintro rfl
    cases s <;> rfl

theorem NumberStyle.ofChar?_eq_some_iff {c : Char} {s : NumberStyle} :
    ofChar? c = some s ↔ c = s.char := by
  constructor
  · intro h
    unfold ofChar? at h
    split at h <;> cases h <;> rfl
  · rintro rfl
    cases s <;> rfl

/-- No style is written as the start of a part in front of it. -/
theorem NumberStyle.char_ne (s : NumberStyle) :
    s.char.isDigit = false ∧ s.char ≠ ',' ∧ s.char ≠ '.' ∧ s.char ≠ '~' := by
  cases s <;> decide

namespace NumberPattern

/-- The digits of a number behind some zeros. -/
def digitsBehind (zeros n : Nat) : List Char :=
  List.replicate zeros '0' ++ Nat.toDigits 10 n

/-- The pattern with zeros in front of the digits of its width and of its precision. -/
def spelling (p : NumberPattern) (widthZeros precisionZeros : Nat) : List Char :=
  optionChars Alignment.chars p.alignment ++ optionChars (fun s => [s.char]) p.sign ++
    optionChars (fun s => [s.char]) p.symbol ++ markChars '0' p.zeroPad ++
    optionChars (digitsBehind widthZeros) p.width ++ markChars ',' p.grouping ++
    optionChars (fun n => '.' :: digitsBehind precisionZeros n) p.precision ++
    markChars '~' p.trim ++ optionChars (fun s => [s.char]) p.style

/-- Whether the text is the pattern as it is written, up to zeros in front of the precision and,
where the pattern pads with zeros, in front of the width. -/
def Spells (p : NumberPattern) (cs : List Char) : Prop :=
  ∃ widthZeros precisionZeros,
    (widthZeros ≠ 0 → p.zeroPad = true) ∧ cs = p.spelling widthZeros precisionZeros

theorem spells_chars (p : NumberPattern) : p.Spells p.chars :=
  ⟨0, 0, fun h => absurd rfl h, rfl⟩

theorem isDigit_of_mem_digitsBehind {zeros n : Nat} {c : Char} (h : c ∈ digitsBehind zeros n) :
    c.isDigit := by
  cases List.mem_append.1 h with
  | inl h =>
      rw [List.eq_of_mem_replicate h]
      rfl
  | inr h => exact Nat.isDigit_of_mem_toDigits (by decide) (by decide) h

theorem digitsBehind_ne_nil (zeros n : Nat) : digitsBehind zeros n ≠ [] :=
  List.append_ne_nil_of_right_ne_nil _ Nat.toDigits_ne_nil

/-- Of the ways to write a number, those that start with a zero. -/
theorem head_digitsBehind_append {zeros n : Nat} {rest : List Char} :
    (digitsBehind zeros n ++ rest).head? = some '0' ↔ zeros ≠ 0 ∨ n = 0 := by
  cases zeros with
  | succ zeros => simp [digitsBehind, List.replicate_succ]
  | zero =>
      obtain ⟨c, cs, hcs⟩ := List.exists_cons_of_ne_nil (Nat.toDigits_ne_nil (n := n) (b := 10))
      by_cases hn : n = 0
      · simp [digitsBehind, hn]
      · have hhead := Decimal.head_toDigits_ne_zero hn
        rw [hcs] at hhead
        simpa [digitsBehind, hcs, hn] using hhead

theorem bounded?_eq_some_iff {digits : List Char} (hne : digits ≠ []) (h : ∀ c ∈ digits, c.isDigit)
    {n : Nat} :
    bounded? digits = some n ↔ n ≤ maxField ∧ ∃ zeros, digits = digitsBehind zeros n := by
  constructor
  · intro hn
    simp only [bounded?] at hn
    split at hn
    · cases hn
      exact ⟨‹_›, Decimal.exists_eq_replicate_append_toDigits hne h⟩
    · cases hn
  · rintro ⟨hle, zeros, rfl⟩
    have hvalue : Nat.ofDigitChars 10 (digitsBehind zeros n) 0 = n := by
      rw [digitsBehind, Nat.ofDigitChars_append, Nat.ofDigitChars_replicate_zero, Nat.mul_zero,
        Nat.ofDigitChars_ten_toDigits]
    simp only [bounded?, hvalue, if_pos hle]

theorem head_dropWhile_isDigit {cs : List Char} :
    ∀ c ∈ (cs.dropWhile Char.isDigit).head?, c.isDigit = false := by
  intro c hc
  have h := List.head?_dropWhile_not Char.isDigit cs
  rw [Option.mem_def.1 hc] at h
  exact h

/-- A field is read from the longest run of digits, so no digit follows it. -/
theorem field_eq_iff {cs rest : List Char} {n : Nat} :
    (cs.takeWhile Char.isDigit ≠ [] ∧ bounded? (cs.takeWhile Char.isDigit) = some n ∧
        cs.dropWhile Char.isDigit = rest) ↔
      n ≤ maxField ∧ (∀ c ∈ rest.head?, c.isDigit = false) ∧
        ∃ zeros, cs = digitsBehind zeros n ++ rest := by
  constructor
  · rintro ⟨hne, hn, rfl⟩
    have hdigits := List.all_eq_true.1 (List.all_takeWhile (p := Char.isDigit) (l := cs))
    obtain ⟨hle, zeros, hzeros⟩ := (bounded?_eq_some_iff hne hdigits).1 hn
    refine ⟨hle, head_dropWhile_isDigit, zeros, ?_⟩
    rw [← hzeros, List.takeWhile_append_dropWhile]
  · rintro ⟨hle, hrest, zeros, rfl⟩
    have hdigits : ∀ c ∈ digitsBehind zeros n, c.isDigit := fun c =>
      isDigit_of_mem_digitsBehind
    obtain ⟨htake, hdrop⟩ := takeWhile_append_stop hdigits hrest
    have hne := digitsBehind_ne_nil zeros n
    rw [htake, hdrop]
    exact ⟨hne, (bounded?_eq_some_iff hne hdigits).2 ⟨hle, zeros, rfl⟩, rfl⟩

/-- What may follow an alignment: a character for a side would be taken for the side itself, and
one at the second place for the side behind a fill. -/
def StopsAlignment : Option Alignment → List Char → Prop
  | none, rest => ∀ c ∈ rest.take 2, Align.ofChar? c = none
  | some ⟨none, _⟩, rest => ∀ c ∈ rest.head?, Align.ofChar? c = none
  | some ⟨some _, _⟩, _ => True

theorem takeAlignment_eq_iff {cs rest : List Char} {alignment : Option Alignment} :
    takeAlignment cs = (alignment, rest) ↔
      cs = optionChars Alignment.chars alignment ++ rest ∧ StopsAlignment alignment rest := by
  constructor
  · intro h
    match cs with
    | [] =>
        cases h
        exact ⟨rfl, by simp [StopsAlignment]⟩
    | [c] =>
        cases hc : Align.ofChar? c with
        | some side =>
            simp only [takeAlignment, hc] at h
            cases h
            rw [Align.ofChar?_eq_some_iff.1 hc]
            exact ⟨rfl, by simp [StopsAlignment]⟩
        | none =>
            simp only [takeAlignment, hc] at h
            cases h
            exact ⟨rfl, by simp [StopsAlignment, hc]⟩
    | fill :: c :: later =>
        cases hc : Align.ofChar? c with
        | some side =>
            simp only [takeAlignment, hc] at h
            cases h
            rw [Align.ofChar?_eq_some_iff.1 hc]
            exact ⟨rfl, trivial⟩
        | none =>
            cases hfill : Align.ofChar? fill with
            | some side =>
                simp only [takeAlignment, hc, hfill] at h
                cases h
                rw [Align.ofChar?_eq_some_iff.1 hfill]
                exact ⟨rfl, by simp [StopsAlignment, hc]⟩
            | none =>
                simp only [takeAlignment, hc, hfill] at h
                cases h
                exact ⟨rfl, by simp [StopsAlignment, hc, hfill]⟩
  · rintro ⟨rfl, hstops⟩
    have hside (side : Align) : Align.ofChar? side.char = some side :=
      Align.ofChar?_eq_some_iff.2 rfl
    match alignment with
    | some ⟨some fill, side⟩ =>
        simp [optionChars, Alignment.chars, takeAlignment, hside]
    | some ⟨none, side⟩ =>
        cases rest with
        | nil => simp [optionChars, Alignment.chars, takeAlignment, hside]
        | cons c rest =>
            have hc : Align.ofChar? c = none := hstops c rfl
            simp [optionChars, Alignment.chars, takeAlignment, hside, hc]
    | none =>
        match rest with
        | [] => rfl
        | [c] =>
            have hc : Align.ofChar? c = none := hstops c (by simp)
            simp [optionChars, takeAlignment, hc]
        | c :: d :: rest =>
            have hc : Align.ofChar? c = none := hstops c (by simp)
            have hd : Align.ofChar? d = none := hstops d (by simp)
            simp [optionChars, takeAlignment, hc, hd]

theorem takeChar_eq_iff {α : Type} {kind : Char → Option α} {char : α → Char}
    (hkind : ∀ {c a}, kind c = some a ↔ c = char a) {cs rest : List Char} {part : Option α} :
    takeChar kind cs = (part, rest) ↔
      cs = optionChars (fun a => [char a]) part ++ rest ∧
        (part = none → ∀ c ∈ rest.head?, kind c = none) := by
  constructor
  · intro h
    cases cs with
    | nil =>
        cases h
        exact ⟨rfl, by simp⟩
    | cons c cs =>
        cases hc : kind c with
        | some a =>
            simp only [takeChar, hc] at h
            cases h
            rw [hkind.1 hc]
            exact ⟨rfl, by simp⟩
        | none =>
            simp only [takeChar, hc] at h
            cases h
            exact ⟨rfl, by simpa using hc⟩
  · rintro ⟨rfl, hstops⟩
    cases part with
    | some a =>
        have ha : kind (char a) = some a := hkind.2 rfl
        simp [optionChars, takeChar, ha]
    | none =>
        cases rest with
        | nil => rfl
        | cons c rest =>
            have hc : kind c = none := hstops rfl c rfl
            simp [optionChars, takeChar, hc]

theorem takeMark_eq_iff {mark : Char} {cs rest : List Char} {present : Bool} :
    takeMark mark cs = (present, rest) ↔
      cs = markChars mark present ++ rest ∧ (present = false → ∀ c ∈ rest.head?, c ≠ mark) := by
  constructor
  · intro h
    cases cs with
    | nil =>
        cases h
        exact ⟨rfl, by simp⟩
    | cons c cs =>
        by_cases hc : c = mark
        · rw [takeMark, if_pos hc] at h
          cases h
          rw [hc]
          exact ⟨rfl, by simp⟩
        · rw [takeMark, if_neg hc] at h
          cases h
          exact ⟨rfl, by simpa using hc⟩
  · rintro ⟨rfl, hstops⟩
    cases present with
    | true => simp [markChars, takeMark]
    | false =>
        cases rest with
        | nil => rfl
        | cons c rest =>
            have hc : c ≠ mark := hstops rfl c rfl
            simp [markChars, takeMark, hc]

theorem takeZeroPad_eq_iff {cs rest : List Char} {zeroPad : Bool} :
    takeZeroPad cs = (zeroPad, rest) ↔
      cs = markChars '0' zeroPad ++ rest ∧
        (zeroPad = true → allowsZeroPad rest = true) ∧
        (zeroPad = false → ∀ later, rest = '0' :: later → allowsZeroPad later = false) := by
  constructor
  · intro h
    unfold takeZeroPad at h
    split at h
    · split at h
      · cases h
        exact ⟨rfl, fun _ => ‹_›, nofun⟩
      · cases h
        rename_i later hlater
        refine ⟨rfl, nofun, fun _ later' heq => ?_⟩
        cases heq
        simpa using hlater
    · cases h
      rename_i hzero
      exact ⟨rfl, nofun, fun _ later heq => absurd heq (hzero later)⟩
  · rintro ⟨rfl, hpad, hplain⟩
    cases zeroPad with
    | true => simp [markChars, takeZeroPad, hpad rfl]
    | false =>
        change takeZeroPad rest = (false, rest)
        unfold takeZeroPad
        split
        · rename_i later
          simp [hplain rfl later rfl]
        · rfl

theorem takeWhile_isDigit_eq_nil_iff {cs : List Char} :
    cs.takeWhile Char.isDigit = [] ↔ ∀ c ∈ cs.head?, c.isDigit = false := by
  cases cs with
  | nil => simp
  | cons c cs => simp [List.takeWhile_cons]

theorem takeWidth_eq_ok_iff {cs rest : List Char} {width : Option Nat} :
    takeWidth cs = .ok (width, rest) ↔
      (∀ n, width = some n → n ≤ maxField) ∧ (∀ c ∈ rest.head?, c.isDigit = false) ∧
        ∃ zeros, cs = optionChars (digitsBehind zeros) width ++ rest := by
  constructor
  · intro h
    simp only [takeWidth, List.isEmpty_iff] at h
    split at h
    · rename_i hempty
      cases h
      exact ⟨nofun, takeWhile_isDigit_eq_nil_iff.1 hempty, 0, rfl⟩
    · rename_i hne
      split at h
      · rename_i n hn
        cases h
        obtain ⟨hle, hrest, hcs⟩ := field_eq_iff.1 ⟨hne, hn, rfl⟩
        refine ⟨fun m hm => ?_, hrest, hcs⟩
        cases hm
        exact hle
      · cases h
  · rintro ⟨hle, hrest, zeros, hcs⟩
    cases width with
    | none =>
        have hempty := takeWhile_isDigit_eq_nil_iff.2 hrest
        rw [show cs = rest from hcs]
        simp [takeWidth, hempty]
    | some n =>
        obtain ⟨hne, hn, hdrop⟩ := field_eq_iff.2 ⟨hle n rfl, hrest, zeros, hcs⟩
        simp [takeWidth, hne, hn, hdrop]

theorem takePrecision_eq_ok_iff {cs rest : List Char} {precision : Option Nat} :
    takePrecision cs = .ok (precision, rest) ↔
      (∀ n, precision = some n → n ≤ maxField ∧ ∀ c ∈ rest.head?, c.isDigit = false) ∧
        (precision = none → ∀ c ∈ rest.head?, c ≠ '.') ∧
        ∃ zeros, cs = optionChars (fun n => '.' :: digitsBehind zeros n) precision ++ rest := by
  constructor
  · intro h
    unfold takePrecision at h
    split at h
    · simp only [List.isEmpty_iff] at h
      split at h
      · cases h
      · rename_i hne
        split at h
        · rename_i n hn
          cases h
          obtain ⟨hle, hrest, zeros, hcs⟩ := field_eq_iff.1 ⟨hne, hn, rfl⟩
          refine ⟨fun m hm => ?_, nofun, zeros, congrArg ('.' :: ·) hcs⟩
          cases hm
          exact ⟨hle, hrest⟩
        · cases h
    · rename_i hpoint
      cases h
      refine ⟨nofun, fun _ c hc hpoint' => ?_, 0, rfl⟩
      obtain ⟨later, hlater⟩ := List.head?_eq_some_iff.1 hc
      exact hpoint later (hpoint' ▸ hlater)
  · rintro ⟨hfield, hpoint, zeros, rfl⟩
    cases precision with
    | none =>
        change takePrecision rest = .ok (none, rest)
        unfold takePrecision
        split
        · exact absurd rfl (hpoint rfl '.' rfl)
        · rfl
    | some n =>
        obtain ⟨hle, hrest⟩ := hfield n rfl
        obtain ⟨hne, hn, hdrop⟩ := field_eq_iff.2 ⟨hle, hrest, zeros, rfl⟩
        simp [optionChars, takePrecision, hne, hn, hdrop]

theorem takeStyle_eq_ok_iff {cs : List Char} {style : Option NumberStyle} :
    takeStyle cs = .ok style ↔ cs = optionChars (fun s => [s.char]) style := by
  constructor
  · intro h
    cases cs with
    | nil =>
        cases h
        rfl
    | cons c cs =>
        cases hc : NumberStyle.ofChar? c with
        | none =>
            simp only [takeStyle, hc] at h
            cases h
        | some s =>
            simp only [takeStyle, hc] at h
            split at h <;> cases h
            rw [NumberStyle.ofChar?_eq_some_iff.1 hc, List.isEmpty_iff.1 ‹cs.isEmpty = true›]
            rfl
  · rintro rfl
    cases style with
    | none => rfl
    | some s => cases s <;> rfl

/-- Reading succeeds if each part is read from what the parts before it have left. -/
theorem parseChars_eq_ok_iff {cs : List Char} {p : NumberPattern} :
    parseChars cs = .ok p ↔
      ∃ cs₁ cs₂ cs₃ cs₄ cs₅ cs₆ cs₇ cs₈,
        takeAlignment cs = (p.alignment, cs₁) ∧ takeChar SignMode.ofChar? cs₁ = (p.sign, cs₂) ∧
        takeChar Symbol.ofChar? cs₂ = (p.symbol, cs₃) ∧ takeZeroPad cs₃ = (p.zeroPad, cs₄) ∧
        takeWidth cs₄ = .ok (p.width, cs₅) ∧ takeMark ',' cs₅ = (p.grouping, cs₆) ∧
        takePrecision cs₆ = .ok (p.precision, cs₇) ∧ takeMark '~' cs₇ = (p.trim, cs₈) ∧
        takeStyle cs₈ = .ok p.style := by
  constructor
  · intro h
    simp only [parseChars, bind, Except.bind, pure, Except.pure] at h
    split at h
    · cases h
    · rename_i hwidth
      split at h
      · cases h
      · rename_i hprecision
        split at h
        · cases h
        · rename_i hstyle
          cases h
          exact ⟨_, _, _, _, _, _, _, _, rfl, rfl, rfl, rfl, hwidth, rfl, hprecision, rfl, hstyle⟩
  · rintro ⟨_, _, _, _, _, _, _, _, h₁, h₂, h₃, h₄, h₅, h₆, h₇, h₈, h₉⟩
    simp only [parseChars, h₁, h₂, h₃, h₄, h₅, h₆, h₇, h₈, h₉, bind, Except.bind, pure, Except.pure]

/-- Whether a character may stand behind the zero that asks for padding. -/
def isFieldChar (c : Char) : Bool :=
  c.isDigit || c == ',' || c == '.' || c == '~' || (NumberStyle.ofChar? c).isSome

theorem allowsZeroPad_iff {cs : List Char} :
    allowsZeroPad cs = true ↔ ∀ c ∈ cs.head?, isFieldChar c = true := by
  cases cs with
  | nil => simp [allowsZeroPad]
  | cons c cs => simp [allowsZeroPad, isFieldChar]

theorem mem_markChars {mark c : Char} {present : Bool} :
    c ∈ markChars mark present ↔ present = true ∧ c = mark := by
  cases present <;> simp [markChars]

theorem mem_optionChars {α : Type} {chars : α → List Char} {part : Option α} {c : Char} :
    c ∈ optionChars chars part ↔ ∃ a, part = some a ∧ c ∈ chars a := by
  cases part <;> simp [optionChars]

section Heads
variable {P : Char → Prop}

theorem head_append {front rest : List Char} (hfront : ∀ c ∈ front.head?, P c)
    (hrest : ∀ c ∈ rest.head?, P c) : ∀ c ∈ (front ++ rest).head?, P c := by
  cases front with
  | nil => exact hrest
  | cons c front => exact hfront

theorem head_markChars {mark : Char} (h : P mark) (present : Bool) :
    ∀ c ∈ (markChars mark present).head?, P c := by
  cases present with
  | true => simpa [markChars] using h
  | false => simp [markChars]

theorem head_optionChars {α : Type} {chars : α → List Char} (h : ∀ a, ∀ c ∈ (chars a).head?, P c)
    (part : Option α) : ∀ c ∈ (optionChars chars part).head?, P c := by
  cases part with
  | some a => exact h a
  | none => simp [optionChars]

end Heads

/-- What is written behind the width. -/
def behindWidth (p : NumberPattern) (zeros : Nat) : List Char :=
  markChars ',' p.grouping ++ (optionChars (fun n => '.' :: digitsBehind zeros n) p.precision ++
    (markChars '~' p.trim ++ optionChars (fun s => [s.char]) p.style))

theorem spelling_eq (p : NumberPattern) (widthZeros precisionZeros : Nat) :
    p.spelling widthZeros precisionZeros =
      optionChars Alignment.chars p.alignment ++ (optionChars (fun s => [s.char]) p.sign ++
        (optionChars (fun s => [s.char]) p.symbol ++ (markChars '0' p.zeroPad ++
          (optionChars (digitsBehind widthZeros) p.width ++ p.behindWidth precisionZeros)))) := by
  simp only [spelling, behindWidth, List.append_assoc]

theorem isFieldChar_of_isDigit {c : Char} (h : c.isDigit) : isFieldChar c = true := by
  simp [isFieldChar, h]

theorem isFieldChar_of_mem_behindWidth {p : NumberPattern} {zeros : Nat} {c : Char}
    (h : c ∈ p.behindWidth zeros) : isFieldChar c = true := by
  simp only [behindWidth, List.mem_append, mem_markChars, mem_optionChars, List.mem_cons,
    List.not_mem_nil, or_false] at h
  obtain ⟨-, rfl⟩ | ⟨n, -, rfl | h⟩ | ⟨-, rfl⟩ | ⟨s, -, rfl⟩ := h
  · rfl
  · rfl
  · exact isFieldChar_of_isDigit (isDigit_of_mem_digitsBehind h)
  · rfl
  · cases s <;> rfl

section Readers
variable {p : NumberPattern} {cs rest : List Char}

theorem head_style {P : Char → Prop} (h : ∀ s : NumberStyle, P s.char)
    (style : Option NumberStyle) : ∀ c ∈ (optionChars (fun s => [s.char]) style).head?, P c :=
  head_optionChars (fun s => by simpa using h s) style

theorem head_precision {P : Char → Prop} (h : P '.') (zeros : Nat) (precision : Option Nat) :
    ∀ c ∈ (optionChars (fun n => '.' :: digitsBehind zeros n) precision).head?, P c :=
  head_optionChars (fun n => by simpa using h) precision

/-- What the readers behind the width answer: no part of these starts as an earlier one does. -/
theorem behindWidth_iff :
    (∃ cs₁ cs₂ cs₃, takeMark ',' cs = (p.grouping, cs₁) ∧
        takePrecision cs₁ = .ok (p.precision, cs₂) ∧ takeMark '~' cs₂ = (p.trim, cs₃) ∧
        takeStyle cs₃ = .ok p.style) ↔
      (∀ n, p.precision = some n → n ≤ maxField) ∧ ∃ zeros, cs = p.behindWidth zeros := by
  constructor
  · rintro ⟨cs₁, cs₂, cs₃, hgrouping, hprecision, htrim, hstyle⟩
    obtain ⟨rfl, -⟩ := takeMark_eq_iff.1 hgrouping
    obtain ⟨hfield, -, zeros, rfl⟩ := takePrecision_eq_ok_iff.1 hprecision
    obtain ⟨rfl, -⟩ := takeMark_eq_iff.1 htrim
    rw [takeStyle_eq_ok_iff.1 hstyle]
    exact ⟨fun n hn => (hfield n hn).1, zeros, rfl⟩
  · rintro ⟨hle, zeros, rfl⟩
    refine ⟨_, _, _, takeMark_eq_iff.2 ⟨rfl, fun _ => ?grouping⟩,
      takePrecision_eq_ok_iff.2 ⟨fun n hn => ⟨hle n hn, ?digits⟩, fun _ => ?point, zeros, rfl⟩,
      takeMark_eq_iff.2 ⟨rfl, fun _ => ?trim⟩, takeStyle_eq_ok_iff.2 rfl⟩
    case grouping =>
      exact head_append (head_precision (by decide) zeros p.precision)
        (head_append (head_markChars (by decide) p.trim) (head_style (fun s => s.char_ne.2.1) _))
    case digits =>
      exact head_append (head_markChars (by decide) p.trim) (head_style (fun s => s.char_ne.1) _)
    case point =>
      exact head_append (head_markChars (by decide) p.trim)
        (head_style (fun s => s.char_ne.2.2.1) _)
    case trim => exact head_style (fun s => s.char_ne.2.2.2) _

theorem head_behindWidth (zeros : Nat) : ∀ c ∈ (p.behindWidth zeros).head?, c.isDigit = false :=
  head_append (head_markChars (by decide) p.grouping)
    (head_append (head_precision (by decide) zeros p.precision)
      (head_append (head_markChars (by decide) p.trim) (head_style (fun s => s.char_ne.1) _)))

theorem isFieldChar_of_mem_width (width : Option Nat) (zeros : Nat)
    (hrest : ∀ c ∈ rest, isFieldChar c = true) :
    ∀ c ∈ optionChars (digitsBehind zeros) width ++ rest, isFieldChar c = true := by
  intro c hc
  rw [List.mem_append, mem_optionChars] at hc
  obtain ⟨n, -, hc⟩ | hc := hc
  · exact isFieldChar_of_isDigit (isDigit_of_mem_digitsBehind hc)
  · exact hrest c hc

/-- What the readers of the zero and of the width answer, where only parts that may stand behind
that zero follow. Without the zero no digit zero can come first. -/
theorem zeroPad_width_iff (hrest : ∀ c ∈ rest, isFieldChar c = true)
    (hstop : ∀ c ∈ rest.head?, c.isDigit = false) :
    (∃ cs₁, takeZeroPad cs = (p.zeroPad, cs₁) ∧ takeWidth cs₁ = .ok (p.width, rest)) ↔
      (∀ n, p.width = some n → n ≤ maxField) ∧ (p.width = some 0 → p.zeroPad = true) ∧
        ∃ zeros, (zeros ≠ 0 → p.zeroPad = true) ∧
          cs = markChars '0' p.zeroPad ++ (optionChars (digitsBehind zeros) p.width ++ rest) := by
  constructor
  · rintro ⟨cs₁, hzeroPad, hwidth⟩
    obtain ⟨rfl, -, hplain⟩ := takeZeroPad_eq_iff.1 hzeroPad
    obtain ⟨hle, -, zeros, rfl⟩ := takeWidth_eq_ok_iff.1 hwidth
    by_cases hpad : p.zeroPad = true
    · exact ⟨hle, fun _ => hpad, zeros, fun _ => hpad, rfl⟩
    rw [Bool.not_eq_true] at hpad
    -- A zero in front of the width would ask for padding, since what is behind it allows that.
    have hhead : (optionChars (digitsBehind zeros) p.width ++ rest).head? ≠ some '0' := by
      intro h
      obtain ⟨later, hlater⟩ := List.head?_eq_some_iff.1 h
      have hfield := isFieldChar_of_mem_width p.width zeros hrest
      rw [hlater] at hfield
      have hallowed : allowsZeroPad later = true := allowsZeroPad_iff.2 fun c hc =>
        hfield c (List.mem_cons_of_mem _ (List.mem_of_mem_head? hc))
      rw [hplain hpad later hlater] at hallowed
      cases hallowed
    cases hwidth : p.width with
    | none => exact ⟨nofun, nofun, 0, fun h => absurd rfl h, rfl⟩
    | some n =>
        rw [hwidth] at hhead
        have hne : ¬(zeros ≠ 0 ∨ n = 0) := fun h => hhead (head_digitsBehind_append.2 h)
        rw [hwidth] at hle
        refine ⟨hle, fun h => absurd (.inr (Option.some.inj h)) hne, zeros, fun h => ?_, rfl⟩
        exact absurd (.inl h) hne
  · rintro ⟨hle, hzero, zeros, hzeros, rfl⟩
    refine ⟨_, takeZeroPad_eq_iff.2 ⟨rfl, fun _ => ?_, fun hpad later hlater => ?_⟩,
      takeWidth_eq_ok_iff.2 ⟨hle, hstop, zeros, rfl⟩⟩
    · exact allowsZeroPad_iff.2 fun c hc =>
        isFieldChar_of_mem_width p.width zeros hrest c (List.mem_of_mem_head? hc)
    · cases hwidth : p.width with
      | none =>
          rw [hwidth] at hlater
          have hdigit : '0'.isDigit = false := hstop '0' (congrArg List.head? hlater)
          exact absurd hdigit (by decide)
      | some n =>
          rw [hwidth] at hlater hzero
          rw [hpad] at hzeros hzero
          cases head_digitsBehind_append.1 (congrArg List.head? hlater) with
          | inl h => exact absurd (hzeros h) Bool.false_ne_true
          | inr h => exact absurd (hzero (congrArg some h)) Bool.false_ne_true

theorem kind_eq_none_of_isFieldChar {α : Type} {kind : Char → Option α} {char : α → Char}
    (hkind : ∀ {c a}, kind c = some a ↔ c = char a) (hchar : ∀ a, isFieldChar (char a) = false)
    {c : Char} (h : isFieldChar c = true) : kind c = none := by
  cases ha : kind c with
  | none => rfl
  | some a =>
      rw [hkind.1 ha, hchar a] at h
      cases h

theorem stopsAlignment_of_forall {alignment : Option Alignment}
    (h : ∀ c ∈ rest, Align.ofChar? c = none) : StopsAlignment alignment rest := by
  match alignment with
  | none => exact fun c hc => h c (List.mem_of_mem_take hc)
  | some ⟨none, _⟩ => exact fun c hc => h c (List.mem_of_mem_head? hc)
  | some ⟨some _, _⟩ => trivial

/-- What the readers in front of the zero answer. -/
theorem alignment_sign_symbol_iff (hrest : ∀ c ∈ rest, isFieldChar c = true) :
    (∃ cs₁ cs₂, takeAlignment cs = (p.alignment, cs₁) ∧
        takeChar SignMode.ofChar? cs₁ = (p.sign, cs₂) ∧
        takeChar Symbol.ofChar? cs₂ = (p.symbol, rest)) ↔
      cs = optionChars Alignment.chars p.alignment ++ (optionChars (fun s => [s.char]) p.sign ++
        (optionChars (fun s => [s.char]) p.symbol ++ rest)) := by
  constructor
  · rintro ⟨cs₁, cs₂, halignment, hsign, hsymbol⟩
    obtain ⟨rfl, -⟩ := takeAlignment_eq_iff.1 halignment
    obtain ⟨rfl, -⟩ := (takeChar_eq_iff SignMode.ofChar?_eq_some_iff).1 hsign
    obtain ⟨rfl, -⟩ := (takeChar_eq_iff Symbol.ofChar?_eq_some_iff).1 hsymbol
    rfl
  · rintro rfl
    refine ⟨_, _, takeAlignment_eq_iff.2 ⟨rfl, stopsAlignment_of_forall fun c hc => ?alignment⟩,
      (takeChar_eq_iff SignMode.ofChar?_eq_some_iff).2 ⟨rfl, fun _ c hc => ?sign⟩,
      (takeChar_eq_iff Symbol.ofChar?_eq_some_iff).2 ⟨rfl, fun _ c hc => ?symbol⟩⟩
    case alignment =>
      simp only [List.mem_append, mem_optionChars, List.mem_singleton] at hc
      obtain ⟨s, -, rfl⟩ | ⟨s, -, rfl⟩ | hc := hc
      · cases s <;> rfl
      · cases s <;> rfl
      · exact kind_eq_none_of_isFieldChar Align.ofChar?_eq_some_iff
          (fun a => by cases a <;> rfl) (hrest c hc)
    case sign =>
      replace hc := List.mem_of_mem_head? hc
      simp only [List.mem_append, mem_optionChars, List.mem_singleton] at hc
      obtain ⟨s, -, rfl⟩ | hc := hc
      · cases s <;> rfl
      · exact kind_eq_none_of_isFieldChar SignMode.ofChar?_eq_some_iff
          (fun a => by cases a <;> rfl) (hrest c hc)
    case symbol =>
      exact kind_eq_none_of_isFieldChar Symbol.ofChar?_eq_some_iff
        (fun a => by cases a <;> rfl) (hrest c (List.mem_of_mem_head? hc))

theorem isFieldChar_of_mem_zeroPad (zeroPad : Bool) (hrest : ∀ c ∈ rest, isFieldChar c = true) :
    ∀ c ∈ markChars '0' zeroPad ++ rest, isFieldChar c = true := by
  intro c hc
  rw [List.mem_append, mem_markChars] at hc
  obtain ⟨-, rfl⟩ | hc := hc
  · rfl
  · exact hrest c hc

/-- A text is read as a pattern if that is well-formed and the text spells it. -/
theorem parseChars_eq_ok_iff_spells :
    parseChars cs = .ok p ↔ p.WellFormed ∧ p.Spells cs := by
  have hbehind (q : Nat) : ∀ c ∈ p.behindWidth q, isFieldChar c = true := fun c =>
    isFieldChar_of_mem_behindWidth
  have hpadded (w q : Nat) :=
    isFieldChar_of_mem_zeroPad p.zeroPad (isFieldChar_of_mem_width p.width w (hbehind q))
  rw [parseChars_eq_ok_iff]
  constructor
  · rintro ⟨cs₁, cs₂, cs₃, cs₄, cs₅, cs₆, cs₇, cs₈, h₁, h₂, h₃, h₄, h₅, h₆, h₇, h₈, h₉⟩
    obtain ⟨hprecision, q, rfl⟩ := behindWidth_iff.1 ⟨cs₆, cs₇, cs₈, h₆, h₇, h₈, h₉⟩
    obtain ⟨hwidth, hzero, w, hw, rfl⟩ :=
      (zeroPad_width_iff (hbehind q) (head_behindWidth q)).1 ⟨cs₄, h₄, h₅⟩
    have hcs := (alignment_sign_symbol_iff (hpadded w q)).1 ⟨cs₁, cs₂, h₁, h₂, h₃⟩
    exact ⟨⟨hwidth, hprecision, hzero⟩, w, q, hw, hcs.trans (p.spelling_eq w q).symm⟩
  · rintro ⟨⟨hwidth, hprecision, hzero⟩, w, q, hw, rfl⟩
    obtain ⟨cs₆, cs₇, cs₈, h₆, h₇, h₈, h₉⟩ := behindWidth_iff.2 ⟨hprecision, q, rfl⟩
    obtain ⟨cs₄, h₄, h₅⟩ := (zeroPad_width_iff (hbehind q) (head_behindWidth q)).2
      ⟨hwidth, hzero, w, hw, rfl⟩
    obtain ⟨cs₁, cs₂, h₁, h₂, h₃⟩ :=
      (alignment_sign_symbol_iff (hpadded w q)).2 (p.spelling_eq w q)
    exact ⟨cs₁, cs₂, _, cs₄, _, cs₆, cs₇, cs₈, h₁, h₂, h₃, h₄, h₅, h₆, h₇, h₈, h₉⟩

end Readers

/-- The texts that can be read are those that spell a well-formed pattern, and each is read as the
pattern it spells. In particular a well-formed pattern is read back from its written form. -/
theorem parse_iff_spells :
    (∀ p : NumberPattern, p.WellFormed → parse (String.ofList p.chars) = .ok p) ∧
      ∀ pattern : String,
        (∀ p, parse pattern = .ok p ↔ p.WellFormed ∧ p.Spells pattern.toList) ∧
        ((∃ e, parse pattern = .error e) ↔
          ¬∃ p : NumberPattern, p.WellFormed ∧ p.Spells pattern.toList) := by
  have hparse (pattern : String) (p : NumberPattern) :
      parse pattern = .ok p ↔ p.WellFormed ∧ p.Spells pattern.toList :=
    parseChars_eq_ok_iff_spells
  refine ⟨fun p hp => ?_, fun pattern => ⟨hparse pattern, ?_⟩⟩
  · rw [hparse, String.toList_ofList]
    exact ⟨hp, p.spells_chars⟩
  · simp only [← hparse]
    cases parse pattern with
    | ok p => simp
    | error e => simp

/-- A text with every part, and with a zero too many in front of both its numbers. -/
theorem parse_iff_spells_all_parts :
    parse "*^+$0020,.05~f" = .ok {
      alignment := some ⟨some '*', .center⟩, sign := some .plus, symbol := some .currency,
      zeroPad := true, width := some 20, grouping := true, precision := some 5, trim := true,
      style := some .fixed } := by
  refine ((parse_iff_spells.2 _).1 _).2 ⟨⟨?_, ?_, nofun⟩, 1, 1, fun _ => rfl, by decide⟩
  · rintro n ⟨⟩
    decide
  · rintro n ⟨⟩
    decide

end NumberPattern

end TextTemplate
