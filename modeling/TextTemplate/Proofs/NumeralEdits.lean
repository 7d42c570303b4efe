import TextTemplate.Proofs.SignificantDigits

/-!
Edits of numerals. Grouping puts commas into the integer part and nothing else, three digits apart
from its right end; trimming takes off the zeros that end the fraction, with the point if nothing is
left behind it. Both are given as relations between texts, and trimming is a function of its first
text that has nothing more to do with its second one. Neither changes the number that is seen.
-/
namespace TextTemplate

namespace NumberPattern
open Mantissa

/-! Grouping. -/

/-- Groups of three, but that the first one may be shorter. -/
structure IsGrouping (groups : List (List Char)) : Prop where
  first : ∀ group ∈ groups.head?, 0 < group.length ∧ group.length ≤ 3
  later : ∀ group ∈ groups.tail, group.length = 3

/-- The second text is the first one with commas between groups of its integer part: the run of
digits behind a sign and a symbol, in groups of three counted from its right end. -/
inductive Groups : List Char → List Char → Prop
  | intro {lead rest : List Char} {groups : List (List Char)}
      (hlead : ∀ c ∈ lead, isLead c = true)
      (hdigits : ∀ c ∈ groups.flatten, c.isDigit = true) (hgroups : IsGrouping groups)
      (hrest : ∀ c ∈ rest.head?, isLead c = false ∧ c.isDigit = false) (hcomma : ',' ∉ rest) :
      Groups (lead ++ groups.flatten ++ rest) (lead ++ [','].intercalate groups ++ rest)

theorem isGrouping_nil : IsGrouping [] := ⟨nofun, nofun⟩

theorem IsGrouping.length_flatten {group : List Char} {groups : List (List Char)}
    (h : IsGrouping (group :: groups)) :
    (group :: groups).flatten.length = group.length + 3 * groups.length := by
  have hlater := h.later
  rw [List.tail_cons] at hlater
  rw [List.flatten_cons, List.length_append, List.length_flatten,
    List.map_congr_left hlater, List.map_const', List.sum_replicate]
  simp [Nat.mul_comm]

/-- Digits are grouped from the left, by how many of them are still to come. -/
theorem exists_grouping (cs : List Char) :
    ∃ groups, groups.flatten = cs ∧ [','].intercalate groups = groupDigits cs ∧
      IsGrouping groups := by
  induction cs with
  | nil => exact ⟨[], rfl, rfl, isGrouping_nil⟩
  | cons c cs ih =>
      obtain ⟨groups, hflatten, hchars, hgroups⟩ := ih
      rw [groupDigits]
      cases groups with
      | nil =>
          obtain rfl : [] = cs := hflatten
          exact ⟨[[c]], rfl, rfl, by simp, by simp⟩
      | cons group groups =>
          have hlength := hgroups.length_flatten
          have hfirst := hgroups.first group rfl
          rw [hflatten] at hlength
          split
          · rename_i hstart
            simp only [Bool.and_eq_true, decide_eq_true_eq] at hstart
            have hthree : group.length = 3 := by omega
            refine ⟨[c] :: group :: groups, ?_, ?_, ?_, ?_⟩
            · rw [List.flatten_cons, hflatten]
              rfl
            · rw [List.intercalate_cons_cons, hchars]
              rfl
            · simp
            · exact List.forall_mem_cons.2 ⟨hthree, hgroups.later⟩
          · rename_i hinside
            have hne : cs ≠ [] := by
              rintro rfl
              rw [List.length_nil] at hlength
              omega
            have hmod : cs.length % 3 ≠ 0 := by simpa [hne] using hinside
            refine ⟨(c :: group) :: groups, ?_, ?_, ?_, hgroups.later⟩
            · rw [← hflatten]
              rfl
            · rw [← hchars]
              cases groups <;> simp
            · intro first hfirst
              cases hfirst
              rw [List.length_cons]
              omega

theorem filter_comma_of_not_mem {cs : List Char} (h : ',' ∉ cs) : cs.filter (· != ',') = cs := by
  refine List.filter_eq_self.2 fun c hc => ?_
  rw [bne_iff_ne]
  rintro rfl
  exact h hc

/-! Trimming. -/

/-- The second text is the first one without the zeros that end its fraction, and without the point
if nothing is left behind it. What follows the fraction, which is an exponent or the per cent sign,
is kept. -/
inductive Trims : List Char → List Char → Prop
  | whole {cs : List Char} (hpoint : '.' ∉ cs) : Trims cs cs
  | fraction {front kept suffix : List Char} (zeros : Nat)
      (hfront : ∀ c ∈ front, c ≠ '.' ∧ isSuffixStart c = false)
      (hkept : ∀ c ∈ kept, c.isDigit = true) (hlast : kept.getLast? ≠ some '0')
      (hsuffix : StartsSuffix suffix) (hpoint : '.' ∉ suffix) :
      Trims (front ++ '.' :: (kept ++ List.replicate zeros '0') ++ suffix)
        (front ++ pointed kept ++ suffix)

theorem rdropWhile_zeros {kept : List Char} (hlast : kept.getLast? ≠ some '0') (zeros : Nat) :
    (kept ++ List.replicate zeros '0').rdropWhile (· == '0') = kept := by
  induction zeros with
  | zero =>
      rw [List.replicate_zero, List.append_nil, List.rdropWhile_eq_self_iff]
      intro hne hzero
      rw [List.getLast?_eq_some_getLast hne, eq_of_beq hzero] at hlast
      exact hlast rfl
  | succ zeros ih =>
      rw [List.replicate_succ', ← List.append_assoc, List.rdropWhile_concat_pos _ _ _ rfl, ih]

theorem exists_zeros (digits : List Char) : ∃ kept zeros,
    digits = kept ++ List.replicate zeros '0' ∧ kept.getLast? ≠ some '0' := by
  induction digits using List.reverseRecOn with
  | nil => exact ⟨[], 0, rfl, nofun⟩
  | append_singleton front c ih =>
      by_cases hc : c = '0'
      · obtain ⟨kept, zeros, rfl, hlast⟩ := ih
        exact ⟨kept, zeros + 1, by rw [hc, List.replicate_succ', List.append_assoc], hlast⟩
      · exact ⟨front ++ [c], 0, (List.append_nil _).symm, by simp [hc]⟩

theorem point_not_mem {front suffix : List Char}
    (hfront : ∀ c ∈ front, c ≠ '.' ∧ isSuffixStart c = false) (hpoint : '.' ∉ suffix) :
    '.' ∉ front ++ pointed [] ++ suffix := by
  rw [pointed, List.append_nil, List.mem_append]
  rintro (hmem | hmem)
  · exact (hfront '.' hmem).1 rfl
  · exact hpoint hmem

theorem trims_pointed {front fraction suffix : List Char}
    (hfront : ∀ c ∈ front, c ≠ '.' ∧ isSuffixStart c = false)
    (hfraction : ∀ c ∈ fraction, c.isDigit = true) (hsuffix : StartsSuffix suffix)
    (hpoint : '.' ∉ suffix) :
    Trims (front ++ pointed fraction ++ suffix)
      (front ++ pointed (fraction.rdropWhile (· == '0')) ++ suffix) := by
  by_cases hnil : fraction = []
  · rw [hnil, List.rdropWhile_nil]
    exact .whole (point_not_mem hfront hpoint)
  · obtain ⟨kept, zeros, rfl, hlast⟩ := exists_zeros fraction
    rw [pointed_of_ne_nil hnil, rdropWhile_zeros hlast]
    exact .fraction zeros hfront (fun c hc => hfraction c (List.mem_append_left _ hc)) hlast
      hsuffix hpoint

/-- What trimming leaves is what the relation says, and nothing else. -/
theorem Trims.trimFraction_eq {cs ds : List Char} (h : Trims cs ds) : trimFraction cs = ds := by
  cases h with
  | whole hpoint => exact trimFraction_of_not_mem hpoint
  | @fraction front kept suffix zeros hfront hkept hlast hsuffix _ =>
      have hdigits : ∀ c ∈ kept ++ List.replicate zeros '0', c.isDigit = true := by
        intro c hc
        obtain hc | hc := List.mem_append.1 hc
        · exact hkept c hc
        · rw [List.eq_of_mem_replicate hc]
          rfl
      rw [trimFraction_point hfront hdigits hsuffix, rdropWhile_zeros hlast]

/-- A trimmed text has nothing more to trim. -/
theorem Trims.again {cs ds : List Char} (h : Trims cs ds) : Trims ds ds := by
  cases h with
  | whole hpoint => exact .whole hpoint
  | @fraction front kept suffix zeros hfront hkept hlast hsuffix hpoint =>
      by_cases hnil : kept = []
      · rw [hnil]
        exact .whole (point_not_mem hfront hpoint)
      · have hagain := Trims.fraction 0 hfront hkept hlast hsuffix hpoint
        rw [List.replicate_zero, List.append_nil, ← pointed_of_ne_nil hnil] at hagain
        exact hagain

end NumberPattern

/-! What number is seen. -/

namespace Mantissa

/-- The number of a mantissa in front of an exponent. -/
def value (a : Mantissa) (e : ℤ) : ℚ :=
  Decimal.value ⟨Nat.ofDigitChars 10 a.digits 0, e - a.fraction.length⟩

theorem value_trimmed (a : Mantissa) (e : ℤ) : a.trimmed.value e = a.value e := by
  obtain ⟨kept, zeros, hfraction, hlast⟩ := NumberPattern.exists_zeros a.fraction
  have htrimmed : a.trimmed.fraction = kept := by
    rw [trimmed, hfraction, NumberPattern.rdropWhile_zeros hlast]
  have hdigits : a.digits = a.trimmed.digits ++ List.replicate zeros '0' := by
    rw [digits, digits, htrimmed, hfraction, List.append_assoc]
    rfl
  have hnumber : Nat.ofDigitChars 10 a.digits 0 =
      Nat.ofDigitChars 10 a.trimmed.digits 0 * 10 ^ zeros := by
    rw [hdigits, Nat.ofDigitChars_append]
    simp [Nat.mul_comm]
  have hplaces : e - kept.length = zeros + (e - a.fraction.length) := by
    rw [hfraction, List.length_append, List.length_replicate]
    push_cast
    ring
  rw [value, value, hnumber, htrimmed, Decimal.value, Decimal.value, hplaces,
    zpow_add₀ (by norm_num), zpow_natCast]
  push_cast
  ring

end Mantissa

namespace Numeral

theorem read?_plus {cs : List Char} (h : ∀ c ∈ cs.head?, c.isDigit = true) :
    read? ('+' :: cs) = read? cs := by
  have hsigned : splitSign ('+' :: cs) = (false, cs) := rfl
  rw [read?, hsigned, read?, splitSign_of_isDigit h]

/-- A sign in front of a mantissa says nothing but whether the number is negative. -/
theorem read?_signed {sign : List Char} (hsign : sign = [] ∨ sign = ['+'] ∨ sign = ['-'])
    {a : Mantissa} (ha : a.IsDecimal) {suffix : List Char} {e : ℤ}
    (he : readExponent? suffix = some e) :
    ∃ numeral, read? (sign ++ (a.chars ++ suffix)) = some numeral ∧
      numeral.negative = (sign == ['-']) ∧ numeral.magnitude.value = a.value e := by
  have hhead : ∀ c ∈ (a.chars ++ suffix).head?, c.isDigit = true := by
    rw [Mantissa.chars, List.append_assoc]
    exact isDigit_head_append ha.whole_ne_nil ha.whole _
  obtain rfl | rfl | rfl := hsign
  · exact ⟨_, read?_mantissa false ha he, rfl, rfl⟩
  · exact ⟨_, (read?_plus hhead).trans (read?_mantissa false ha he), rfl, rfl⟩
  · exact ⟨_, read?_mantissa true ha he, rfl, rfl⟩

end Numeral

namespace NumberPattern
open Mantissa Numeral

/-- A character that says nothing about the number that is shown. -/
def isDecoration (c : Char) : Bool := c == ',' || c == ' ' || c == '$' || c == '%'

/-- The sign and the number that a text shows. In per cent a number counts its hundredth. -/
def shownNumber? (cs : List Char) : Option (Bool × ℚ) :=
  (read? (cs.filter fun c => !isDecoration c)).map fun numeral =>
    (numeral.negative, numeral.magnitude.value / if '%' ∈ cs then 100 else 1)

end NumberPattern
end TextTemplate
