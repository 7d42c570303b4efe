import TextTemplate.Proofs.TextSlices

/-!
Texts of a width. Truncating shortens a text that is too long to exactly the width, with an ellipsis
in the place of what is left out, and padding fills one that is too short. Truncating again has no
effect but that of the smaller width. Only one of the two filters has something to do with a text,
so that they make columns of a fixed width in either order.
-/
namespace TextTemplate

namespace Text

theorem length_takeRight (n : Nat) (cs : List Char) :
    (takeRight n cs).length = min n cs.length := by
  rw [takeRight, List.length_drop]
  omega

theorem takeRight_suffix (n : Nat) (cs : List Char) : takeRight n cs <:+ cs :=
  List.drop_suffix _ _

theorem takeRight_append {n : Nat} {back : List Char} (h : n ≤ back.length) (front : List Char) :
    takeRight n (front ++ back) = takeRight n back := by
  have hbehind : (front ++ back).length - n = front.length + (back.length - n) := by
    rw [List.length_append]
    omega
  rw [takeRight, takeRight, hbehind, ← List.drop_drop, List.drop_left]

theorem takeRight_takeRight {m n : Nat} (h : m ≤ n) (cs : List Char) :
    takeRight m (takeRight n cs) = takeRight m cs := by
  have hlength := length_takeRight n cs
  rw [takeRight, hlength, takeRight, takeRight, List.drop_drop]
  congr 1
  omega

/-! What is left of a text that is too long. -/

/-- How many of the characters that are kept stand in front of the ellipsis. -/
def headLength (keep : Nat) : Side → Nat
  | .right => keep
  | .left => 0
  | .middle => (keep + 1) / 2

/-- How many of the characters that are kept stand behind the ellipsis. -/
def tailLength (keep : Nat) : Side → Nat
  | .right => 0
  | .left => keep
  | .middle => keep / 2

theorem headLength_add_tailLength (keep : Nat) (side : Side) :
    headLength keep side + tailLength keep side = keep := by
  cases side <;> simp only [headLength, tailLength] <;> omega

theorem headLength_mono {m n : Nat} (h : m ≤ n) (side : Side) :
    headLength m side ≤ headLength n side := by
  cases side <;> simp only [headLength] <;> omega

theorem tailLength_mono {m n : Nat} (h : m ≤ n) (side : Side) :
    tailLength m side ≤ tailLength n side := by
  cases side <;> simp only [tailLength] <;> omega

theorem truncate_of_length_le {width : Nat} {cs : List Char} (h : cs.length ≤ width)
    (side : Side) : truncate width side cs = cs := by
  rw [truncate, if_pos h]

/-- On every side, a text that is too long keeps characters in front, an ellipsis and characters
behind. -/
theorem truncate_of_lt {width : Nat} {cs : List Char} (h : width < cs.length) (side : Side) :
    truncate width side cs =
      cs.take (headLength (width - 1) side) ++
        ellipsis :: takeRight (tailLength (width - 1) side) cs := by
  rw [truncate, if_neg (Nat.not_le_of_lt h)]
  cases side with
  | right => rw [headLength, tailLength, takeRight_zero]
  | left => rfl
  | middle => rfl

theorem length_parts {width : Nat} {cs : List Char} (h : width < cs.length) (side : Side) :
    (cs.take (headLength (width - 1) side)).length = headLength (width - 1) side ∧
      (takeRight (tailLength (width - 1) side) cs).length = tailLength (width - 1) side := by
  have hsum := headLength_add_tailLength (width - 1) side
  rw [List.length_take, length_takeRight]
  omega

theorem length_truncate_of_lt {width : Nat} {cs : List Char} (h : width < cs.length)
    (side : Side) : (truncate width side cs).length = max width 1 := by
  have hsum := headLength_add_tailLength (width - 1) side
  obtain ⟨hhead, htail⟩ := length_parts h side
  rw [truncate_of_lt h, List.length_append, List.length_cons, hhead, htail]
  omega

/-- Of two cuts only the shorter one is seen: it falls in front of the first ellipsis and behind
it, and takes its place. -/
theorem truncate_truncate (n m : Nat) (side : Side) (cs : List Char) :
    truncate m side (truncate n side cs) = truncate (min n m) side cs := by
  by_cases hlong : n < cs.length
  · have hlength := length_truncate_of_lt hlong side
    by_cases hcut : m < (truncate n side cs).length
    · have hle : m - 1 ≤ n - 1 := by omega
      have hmin : min n m = m := by omega
      obtain ⟨hhead, htail⟩ := length_parts hlong side
      have hfront : (truncate n side cs).take (headLength (m - 1) side) =
          cs.take (headLength (m - 1) side) := by
        rw [truncate_of_lt hlong, List.take_append_of_le_length, List.take_take,
          Nat.min_eq_left (headLength_mono hle side)]
        rw [hhead]
        exact headLength_mono hle side
      have hback : takeRight (tailLength (m - 1) side) (truncate n side cs) =
          takeRight (tailLength (m - 1) side) cs := by
        rw [truncate_of_lt hlong, List.append_cons, takeRight_append,
          takeRight_takeRight (tailLength_mono hle side)]
        rw [htail]
        exact tailLength_mono hle side
      rw [truncate_of_lt hcut, hfront, hback, hmin, truncate_of_lt (show m < cs.length by omega)]
    · have hmin : min n m = n := by omega
      rw [truncate_of_length_le (Nat.le_of_not_lt hcut), hmin]
  · have hwhole := Nat.le_of_not_lt hlong
    rw [truncate_of_length_le hwhole]
    by_cases hcut : m < cs.length
    · rw [Nat.min_eq_right (by omega)]
    · rw [truncate_of_length_le (by omega), truncate_of_length_le (by omega)]

/-! Filling a text up. -/

theorem pad_of_length_le {width : Nat} {cs : List Char} (h : width ≤ cs.length) (side : Side) :
    pad width side cs = cs := by
  cases side <;> simp [pad, Nat.sub_eq_zero_of_le h]

/-- The spaces of a text that is filled up stand on the side away from it, or around it with the
odd one behind. -/
theorem exists_pad (width : Nat) (side : Side) (cs : List Char) :
    ∃ before after, pad width side cs =
        List.replicate before ' ' ++ cs ++ List.replicate after ' ' ∧
      before + after = width - cs.length ∧
      match side with
      | .right => before = 0
      | .left => after = 0
      | .middle => after = before ∨ after = before + 1 := by
  refine ⟨_, _, rfl, ?_, ?_⟩
  · cases side <;> dsimp only <;> omega
  · cases side <;> dsimp only <;> omega

theorem length_pad (width : Nat) (side : Side) (cs : List Char) :
    (pad width side cs).length = max width cs.length := by
  obtain ⟨before, after, hpad, hsum, -⟩ := exists_pad width side cs
  rw [hpad]
  simp only [List.length_append, List.length_replicate]
  omega

theorem pad_right (width : Nat) (cs : List Char) :
    pad width .right cs = cs ++ List.replicate (width - cs.length) ' ' := rfl

theorem pad_left (width : Nat) (cs : List Char) :
    pad width .left cs = List.replicate (width - cs.length) ' ' ++ cs := by
  simp [pad]

/-- All spaces on one side: filling up in two steps is filling up to the greater width. -/
theorem pad_pad {side : Side} (h : side ≠ .middle) (n m : Nat) (cs : List Char) :
    pad m side (pad n side cs) = pad (max n m) side cs := by
  have hsum : n - cs.length + (m - max n cs.length) = max n m - cs.length := by omega
  cases side with
  | right =>
      rw [pad_right m, length_pad, pad_right, pad_right, List.append_assoc,
        List.replicate_append_replicate, hsum]
  | left =>
      rw [pad_left m, length_pad, pad_left, pad_left, ← List.append_assoc,
        List.replicate_append_replicate, Nat.add_comm, hsum]
  | middle => exact absurd rfl h

theorem pad_pad_self (width : Nat) (side : Side) (cs : List Char) :
    pad width side (pad width side cs) = pad width side cs := by
  refine pad_of_length_le ?_ side
  rw [length_pad]
  exact Nat.le_max_left _ _

/-- A text is too long or not, so that one of the two filters leaves it as it is. -/
theorem pad_truncate (width : Nat) (side cut : Side) (cs : List Char) :
    pad width side (truncate width cut cs) =
      if width < cs.length then truncate width cut cs else pad width side cs := by
  split
  · rename_i hlong
    refine pad_of_length_le ?_ side
    rw [length_truncate_of_lt hlong]
    exact Nat.le_max_left _ _
  · rw [truncate_of_length_le (by omega)]

theorem truncate_pad (width : Nat) (side cut : Side) (cs : List Char) :
    truncate width cut (pad width side cs) =
      if width < cs.length then truncate width cut cs else pad width side cs := by
  split
  · rw [pad_of_length_le (by omega)]
  · refine truncate_of_length_le ?_ cut
    rw [length_pad]
    omega

theorem length_pad_truncate {width : Nat} (h : 1 ≤ width) (side cut : Side) (cs : List Char) :
    (pad width side (truncate width cut cs)).length = width := by
  rw [pad_truncate]
  split
  · rw [length_truncate_of_lt ‹_›]
    omega
  · rw [length_pad]
    omega

end Text

namespace Value
open Text

theorem length_text (v : Value) : v.text.length = v.chars.length := by
  rw [text, String.length_ofList]

/-- A text that is not longer than the width is kept. Of a longer one a front part and an end are
kept, as many characters as are asked for but one, and an ellipsis stands between them: with the end
cut off there is no end part, with the front cut off no front part, and with the middle cut out both
are equally long but for one odd character in front. Truncating twice on the same side is truncating
once to the smaller width. -/
theorem truncate_absorbs (v : Value) (side : Side) :
    (v.isNullish = false → ∀ width,
      (v.text.length ≤ width → truncate width side v = str v.text) ∧
      (width < v.text.length → ∃ head tail : List Char,
        truncate width side v = str (String.ofList (head ++ ellipsis :: tail)) ∧
        head <+: v.text.toList ∧ tail <:+ v.text.toList ∧
        head.length + tail.length = max width 1 - 1 ∧
        match side with
        | .right => tail = []
        | .left => head = []
        | .middle => head.length = tail.length ∨ head.length = tail.length + 1)) ∧
    ∀ n m, truncate m side (truncate n side v) = truncate (min n m) side v := by
  refine ⟨fun h width => ⟨fun hle => ?_, fun hlt => ?_⟩, fun n m => ?_⟩
  · rw [length_text] at hle
    rw [truncate, mapText_eq_str h, truncate_of_length_le hle, text]
  · rw [length_text] at hlt
    have hsum := headLength_add_tailLength (width - 1) side
    obtain ⟨hhead, htail⟩ := length_parts hlt side
    rw [truncate, mapText_eq_str h, truncate_of_lt hlt, text, String.toList_ofList]
    refine ⟨_, _, rfl, List.take_prefix _ _, takeRight_suffix _ _, by omega, ?_⟩
    cases side with
    | right => exact takeRight_zero v.chars
    | left => rfl
    | middle =>
        rw [hhead, htail, headLength, tailLength]
        omega
  · rw [truncate, truncate, truncate, mapText_mapText]
    exact congrArg (mapText · v) (funext (truncate_truncate n m side))

/-- A text with letters of two bytes, cut in the middle to an even width and then to none. -/
theorem truncate_absorbs_middle :
    let v := str "naïveté"
    v.isNullish = false ∧ v.text.length = 7 ∧ truncate 7 .middle v = str "naïveté" ∧
      (truncate 4 .middle v).text = "na…é" ∧
      (∃ head tail : List Char,
        truncate 4 .middle v = str (String.ofList (head ++ ellipsis :: tail)) ∧
        head <+: "naïveté".toList ∧ tail <:+ "naïveté".toList ∧
        head.length + tail.length = 3 ∧
        (head.length = tail.length ∨ head.length = tail.length + 1)) ∧
      truncate 0 .middle (truncate 4 .middle v) = truncate 0 .middle v := by
  intro v
  have htext : v.text = "naïveté" := by decide +kernel
  obtain ⟨hshape, habsorbs⟩ := truncate_absorbs v .middle
  have hwhole := (hshape rfl 7).1
  have hcut := (hshape rfl 4).2
  simp only [htext] at hwhole hcut
  exact ⟨rfl, by decide +kernel, hwhole (by decide +kernel), by decide +kernel,
    hcut (by decide +kernel), habsorbs 4 0⟩

/-- For every value that is rendered as something, truncating and padding to one width give the same
column in either order, exactly as wide unless the width is zero. A text that is not longer than the
column stands in it as it is, with all missing spaces behind it, in front of it, or around it with
the odd one behind. On the right and on the left, padding twice is padding once to the greater
width, and on every side padding again to the same width changes nothing. -/
theorem pad_truncate_column {v : Value} (h : v.isNullish = false) (side cut : Side)
    (width : Nat) :
    let column := pad width side (truncate width cut v)
    column = truncate width cut (pad width side v) ∧
      (1 ≤ width → ∃ s : String, column = str s ∧ s.length = width) ∧
      (v.text.length ≤ width → ∃ before after,
        column = str (String.ofList
          (List.replicate before ' ' ++ v.text.toList ++ List.replicate after ' ')) ∧
        before + after = width - v.text.length ∧
        match side with
        | .right => before = 0
        | .left => after = 0
        | .middle => after = before ∨ after = before + 1) ∧
      (side ≠ .middle → ∀ n m, pad m side (pad n side v) = pad (max n m) side v) ∧
      ∀ n, pad n side (pad n side v) = pad n side v := by
  intro column
  have hcolumn : column =
      str (String.ofList (Text.pad width side (Text.truncate width cut v.chars))) := by
    simp only [column]
    rw [pad, truncate, mapText_mapText, mapText_eq_str h]
  refine ⟨?_, fun hwidth => ?_, fun hle => ?_, fun hside n m => ?_, fun n => ?_⟩
  · rw [hcolumn, pad, truncate, mapText_mapText, mapText_eq_str h, pad_truncate, truncate_pad]
  · refine ⟨_, hcolumn, ?_⟩
    rw [String.length_ofList, length_pad_truncate hwidth]
  · rw [length_text] at hle
    obtain ⟨before, after, hpad, hsum, hside⟩ := exists_pad width side v.chars
    refine ⟨before, after, ?_, ?_, hside⟩
    · rw [hcolumn, truncate_of_length_le hle, hpad, text, String.toList_ofList]
    · rw [length_text, hsum]
  · rw [pad, pad, pad, mapText_mapText]
    exact congrArg (mapText · v) (funext (pad_pad hside n m))
  · rw [pad, mapText_mapText]
    exact congrArg (mapText · v) (funext (pad_pad_self n side))

/-- A date in a column with room for it, and in one of no width, in which the ellipsis is left. -/
theorem pad_truncate_column_date :
    let v := ofDate 2026 11 19
    v.isNullish = false ∧ v.text = "2026-11-19 00:00:00" ∧
      pad 22 .middle (truncate 22 .left v) = truncate 22 .left (pad 22 .middle v) ∧
      (∃ s : String, pad 22 .middle (truncate 22 .left v) = str s ∧ s.length = 22) ∧
      (∃ before after, pad 22 .middle (truncate 22 .left v) = str (String.ofList
          (List.replicate before ' ' ++ "2026-11-19 00:00:00".toList ++
            List.replicate after ' ')) ∧
        before + after = 3 ∧ (after = before ∨ after = before + 1)) ∧
      pad 0 .left (truncate 0 .right v) = truncate 0 .right (pad 0 .left v) ∧
      (pad 0 .left (truncate 0 .right v)).text = "…" ∧
      pad 25 .left (pad 22 .left v) = pad 25 .left v ∧
      pad 25 .middle (pad 25 .middle v) = pad 25 .middle v := by
  intro v
  have htext : v.text = "2026-11-19 00:00:00" := by decide +kernel
  obtain ⟨horder, hwidth, hwhole, -, hagain⟩ :=
    pad_truncate_column (v := v) rfl .middle .left 22
  obtain ⟨hnone, -, -, htwice, -⟩ := pad_truncate_column (v := v) rfl .left .right 0
  simp only [htext] at hwhole
  exact ⟨rfl, htext, horder, hwidth (by decide), hwhole (by decide +kernel), hnone,
    by decide +kernel, htwice (by decide) 22 25, hagain 25⟩

end Value

end TextTemplate
