import TextTemplate.Value.Transform

/-!
Slices of texts. A slice is made of the characters between two bounds, which are never outside of
the text, and a bound that is meant to be behind the other one leaves nothing. The front of a text,
its end and a part in the middle are slices, and every bound cuts a text in two slices.
-/
namespace TextTemplate

namespace Text

/-- The bound that a position means in a text of that length: a position less than zero counts from
the end, and the ends of the text are the outermost bounds. -/
def bound (length : Nat) (position : Int) : Nat :=
  (max 0 (min (length : Int) (if position < 0 then length + position else position))).toNat

theorem bound_natCast (length n : Nat) : bound length n = min n length := by
  rw [bound, if_neg (by omega)]
  omega

theorem bound_neg {n : Nat} (hn : n ≠ 0) (length : Nat) : bound length (-n) = length - n := by
  rw [bound, if_pos (by omega)]
  omega

theorem clampPosition_eq_bound (position : Int) (length : Nat) :
    clampPosition position length = bound length position := by
  rw [clampPosition, bound]
  split <;> omega

theorem slice_none (start : Int) (cs : List Char) :
    slice start none cs = cs.drop (bound cs.length start) := by
  simp only [slice, Option.elim_none, clampPosition_eq_bound]
  exact List.take_of_length_le (Nat.le_of_eq List.length_drop)

theorem slice_some (start stop : Int) (cs : List Char) :
    slice start (some stop) cs =
      (cs.drop (bound cs.length start)).take (bound cs.length stop - bound cs.length start) := by
  simp only [slice, Option.elim_some, clampPosition_eq_bound]

theorem slice_zero_some (stop : Int) (cs : List Char) :
    slice 0 (some stop) cs = cs.take (bound cs.length stop) := by
  have hzero : bound cs.length 0 = 0 := bound_natCast cs.length 0
  rw [slice_some, hzero, List.drop_zero, Nat.sub_zero]

/-- A slice has the characters from one bound to the other, in their order and nothing else. -/
theorem getElem?_slice (start : Int) (stop : Option Int) (cs : List Char) (i : Nat) :
    (slice start stop cs)[i]? =
      if bound cs.length start + i < stop.elim cs.length (bound cs.length) then
        cs[bound cs.length start + i]?
      else none := by
  cases stop with
  | none =>
      rw [slice_none, List.getElem?_drop, Option.elim_none]
      split
      · rfl
      · rw [List.getElem?_eq_none (by omega)]
  | some stop =>
      rw [slice_some, List.getElem?_take, List.getElem?_drop, Option.elim_some]
      simp only [Nat.lt_sub_iff_add_lt']

theorem slice_eq_nil {start : Int} {stop : Option Int} {cs : List Char}
    (h : stop.elim cs.length (bound cs.length) ≤ bound cs.length start) :
    slice start stop cs = [] := by
  refine List.ext_getElem? fun i => ?_
  rw [getElem?_slice, if_neg (by omega), List.getElem?_nil]

/-! The other ways to take a part of a text. -/

theorem take_eq_slice (n : Nat) (cs : List Char) : cs.take n = slice 0 (some n) cs := by
  rw [slice_zero_some, bound_natCast, ← List.take_eq_take_min]

theorem take_drop_eq_slice (start count : Nat) (cs : List Char) :
    (cs.drop start).take count = slice start (some (start + count : Nat)) cs := by
  rw [slice_some, bound_natCast, bound_natCast]
  obtain hlt | hle := Nat.lt_or_ge cs.length start
  · -- There is nothing behind the end of the text, and the bound is that end.
    rw [Nat.min_eq_right (Nat.le_of_lt hlt), List.drop_length,
      List.drop_of_length_le (Nat.le_of_lt hlt), List.take_nil, List.take_nil]
  · rw [Nat.min_eq_left hle, List.take_eq_take_iff, List.length_drop]
    omega

theorem takeRight_eq_slice {n : Nat} (hn : n ≠ 0) (cs : List Char) :
    takeRight n cs = slice (-n) none cs := by
  rw [slice_none, bound_neg hn, takeRight]

theorem takeRight_zero (cs : List Char) : takeRight 0 cs = [] := List.drop_length

/-- Cutting a text at a bound loses nothing and repeats nothing. -/
theorem slice_append_slice (k : Int) (cs : List Char) :
    slice 0 (some k) cs ++ slice k none cs = cs := by
  rw [slice_zero_some, slice_none, List.take_append_drop]

end Text

namespace Value
open Text

theorem mapText_of_isNullish {v : Value} (h : v.isNullish = true) (f : List Char → List Char) :
    mapText f v = v := by
  rw [mapText, if_pos h]

theorem mapText_eq_str {v : Value} (h : v.isNullish = false) (f : List Char → List Char) :
    mapText f v = str (String.ofList (f v.chars)) := by
  rw [mapText, if_neg (ne_true_of_eq_false h)]

theorem text_mapText {v : Value} (h : v.isNullish = false) (f : List Char → List Char) :
    (mapText f v).text = String.ofList (f v.chars) := by
  rw [mapText_eq_str h, text, chars, String.toList_ofList]

/-- Every filter but the first one finds a text that it can take as it is. -/
theorem mapText_mapText (f g : List Char → List Char) (v : Value) :
    mapText g (mapText f v) = mapText (fun cs => g (f cs)) v := by
  cases h : v.isNullish with
  | true => rw [mapText_of_isNullish h, mapText_of_isNullish h, mapText_of_isNullish h]
  | false =>
      rw [mapText_eq_str h, mapText_eq_str h, mapText_eq_str rfl, chars, String.toList_ofList]

/-- For every value that is rendered as something, the front of its text and a part of it in the
middle are slices, and so is its end, which counts from behind. Cut at any position, the text is
its two slices one after the other. Of a slice there are exactly the characters between its bounds,
and none if the second bound is not behind the first one. -/
theorem slice_subsumes {v : Value} (h : v.isNullish = false) :
    (∀ n : Nat, left n v = slice 0 (some n) v) ∧
    (∀ start count : Nat, mid start count v = slice start (some (start + count : Nat)) v) ∧
    (∀ n : Nat, right n v = if n = 0 then str "" else slice (-n) none v) ∧
    (∀ k : Int, (slice 0 (some k) v).text ++ (slice k none v).text = v.text) ∧
    ∀ (start : Int) (stop : Option Int),
      let cs := v.text.toList
      let first := bound cs.length start
      let last := stop.elim cs.length (bound cs.length)
      ∃ part : List Char, slice start stop v = str (String.ofList part) ∧
        (∀ i, part[i]? = if first + i < last then cs[first + i]? else none) ∧
        (last ≤ first → part = []) := by
  refine ⟨fun n => ?_, fun start count => ?_, fun n => ?_, fun k => ?_, fun start stop => ?_⟩
  · rw [left, slice, funext (take_eq_slice n)]
  · rw [mid, slice, funext (take_drop_eq_slice start count)]
  · split
    · rename_i hzero
      rw [right, mapText_eq_str h, hzero, takeRight_zero]
    · rename_i hne
      rw [right, slice, funext (takeRight_eq_slice hne)]
  · rw [slice, slice, text_mapText h, text_mapText h, ← String.ofList_append,
      slice_append_slice, text]
  · rw [text, String.toList_ofList]
    exact ⟨_, mapText_eq_str h _, getElem?_slice start stop v.chars, slice_eq_nil⟩

/-- A list, whose text has a letter of two bytes, with positions far out of it and crossed ones. -/
theorem slice_subsumes_list :
    let v := list [bool true, str "né"]
    v.isNullish = false ∧ v.text = "true,né" ∧
      left 4 v = slice 0 (some 4) v ∧ mid 3 9 v = slice 3 (some 12) v ∧
      right 2 v = slice (-2) none v ∧ right 0 v = str "" ∧
      (slice 0 (some (-9223372036854775808)) v).text ++
        (slice (-9223372036854775808) none v).text = "true,né" ∧
      (∃ part : List Char, slice (-3) (some (-1)) v = str (String.ofList part) ∧
        ∀ i, part[i]? = if 4 + i < 6 then "true,né".toList[4 + i]? else none) ∧
      ∃ part : List Char, slice (-1) (some 2) v = str (String.ofList part) ∧ part = [] := by
  intro v
  have htext : v.text = "true,né" := by decide +kernel
  obtain ⟨hleft, hmid, hright, hcut, hslice⟩ := slice_subsumes (v := v) rfl
  simp only [htext] at hcut hslice
  obtain ⟨part, hpart, hchars, -⟩ := hslice (-3) (some (-1))
  obtain ⟨crossed, hcrossed, -, hnil⟩ := hslice (-1) (some 2)
  exact ⟨rfl, htext, hleft 4, hmid 3 9, hright 2, hright 0, hcut _, ⟨part, hpart, hchars⟩,
    crossed, hcrossed, hnil (by decide)⟩

end Value

end TextTemplate
