import TextTemplate.Emission.Line
import TextTemplate.Proofs.EmittedProgram
import TextTemplate.Proofs.Preliminaries

/-!
Literals of emitted source are read back. A quoted text denotes the text it was made of, whatever
its characters are, and numbers in range are read as the numbers that were printed.
-/
namespace TextTemplate.Emission
open Text

theorem hexDigit?_digitChar {d : Nat} (h : d < 16) : hexDigit? d.digitChar = some d := by
  revert d
  decide

theorem hexValue_concat (cs : List Char) (c : Char) :
    hexValue (cs ++ [c]) = 16 * hexValue cs + (hexDigit? c).getD 0 := by
  simp [hexValue]

theorem hexValue_toDigits (n : Nat) :
    hexValue (Nat.toDigits 16 n) = n ∧ ∀ c ∈ Nat.toDigits 16 n, isHexDigit c := by
  induction n using Nat.strongRecOn with
  | ind n ih =>
      by_cases h : n < 16
      · rw [Nat.toDigits_of_lt_base h]
        simp [hexValue, isHexDigit, hexDigit?_digitChar h]
      · have hlt : n % 16 < 16 := Nat.mod_lt n (by omega)
        obtain ⟨hvalue, hdigits⟩ := ih (n / 16) (by omega)
        rw [Nat.toDigits_of_base_le (by omega) (by omega)]
        refine ⟨?_, ?_⟩
        · rw [hexValue_concat, hvalue, hexDigit?_digitChar hlt]
          simp only [Option.getD_some]
          omega
        · intro c hc
          cases List.mem_append.1 hc with
          | inl hc => exact hdigits c hc
          | inr hc =>
              rw [List.mem_singleton.1 hc, isHexDigit, hexDigit?_digitChar hlt]
              rfl

theorem codePoint?_toDigits (c : Char) : codePoint? (Nat.toDigits 16 c.toNat) = some c := by
  have hvalue := (hexValue_toDigits c.toNat).1
  have hbound : c.toNat < 16 ^ 6 := by
    have hvalid : c.toNat.isValidChar := c.valid
    cases hvalid <;> omega
  have hlength : (Nat.toDigits 16 c.toNat).length ≤ 6 :=
    (Nat.length_toDigits_le_iff (by omega) (by omega)).2 hbound
  rw [codePoint?, hvalue, if_pos ⟨Nat.toDigits_ne_nil, hlength, c.valid⟩, Char.ofNat_toNat]

theorem readEscape?_code (c : Char) (rest : List Char) :
    readEscape? ('u' :: '\x7b' :: (Nat.toDigits 16 c.toNat ++ '\x7d' :: rest)) =
      some (c, rest) := by
  have hstop : ∀ d ∈ ('\x7d' :: rest).head?, isHexDigit d = false := by
    simp only [List.head?_cons, Option.mem_some_iff, forall_eq']
    decide
  obtain ⟨htake, hdrop⟩ := takeWhile_append_stop (hexValue_toDigits c.toNat).2 hstop
  simp only [readEscape?, hdrop, htake, codePoint?_toDigits, Option.map_some]

theorem readString?_quote (rest : List Char) : readString? ('"' :: rest) = some ([], rest) := by
  rw [readString?]
  rfl

theorem readString?_escape {rest later : List Char} {d : Char}
    (h : readEscape? rest = some (d, later)) :
    readString? ('\\' :: rest) =
      (readString? later).map fun (text, later) => (d :: text, later) := by
  rw [readString?, if_neg (by decide), if_pos rfl]
  split
  · rename_i hnone
    rw [h] at hnone
    cases hnone
  · rename_i hsome
    rw [h] at hsome
    cases hsome
    rfl

theorem readString?_plain {c : Char} (hquote : c ≠ '"') (hslash : c ≠ '\\') (rest : List Char) :
    readString? (c :: rest) = (readString? rest).map fun (text, later) => (c :: text, later) := by
  rw [readString?, if_neg hquote, if_neg hslash]

/-- How a character is escaped: by a letter behind a backslash, not at all, or by its code. -/
theorem escaped_cases (c : Char) :
    (∃ d, escaped c = ['\\', d] ∧ d ≠ '\n' ∧
      ∀ rest, readEscape? (d :: rest) = some (c, rest)) ∨
    (escaped c = [c] ∧ c ≠ '"' ∧ c ≠ '\\' ∧ c ≠ '\n') ∨
    escaped c = escapedCode c := by
  by_cases h0 : c = '\x00'
  · subst h0
    exact .inl ⟨'0', rfl, by decide, fun _ => rfl⟩
  by_cases ht : c = '\t'
  · subst ht
    exact .inl ⟨'t', rfl, by decide, fun _ => rfl⟩
  by_cases hr : c = '\r'
  · subst hr
    exact .inl ⟨'r', rfl, by decide, fun _ => rfl⟩
  by_cases hn : c = '\n'
  · subst hn
    exact .inl ⟨'n', rfl, by decide, fun _ => rfl⟩
  by_cases hquote : c = '"'
  · subst hquote
    exact .inl ⟨'"', rfl, by decide, fun _ => rfl⟩
  by_cases hslash : c = '\\'
  · subst hslash
    exact .inl ⟨'\\', rfl, by decide, fun _ => rfl⟩
  rw [escaped, if_neg h0, if_neg ht, if_neg hr, if_neg hn, if_neg hquote, if_neg hslash]
  split
  · exact .inr (.inl ⟨rfl, hquote, hslash, hn⟩)
  · exact .inr (.inr rfl)

theorem readString?_escaped (c : Char) (rest : List Char) :
    readString? (escaped c ++ rest) =
      (readString? rest).map fun (text, later) => (c :: text, later) := by
  obtain ⟨d, hescaped, -, hread⟩ | ⟨hescaped, hquote, hslash, -⟩ | hescaped := escaped_cases c
  · rw [hescaped]
    exact readString?_escape (hread rest)
  · rw [hescaped]
    exact readString?_plain hquote hslash rest
  · have hcode := readEscape?_code c rest
    simp only [hescaped, escapedCode, List.cons_append, List.append_assoc, List.nil_append]
    exact readString?_escape hcode

/-- A quoted text is read back, and reading stops behind its last quote. -/
theorem readString?_flatMap_escaped (cs rest : List Char) :
    readString? (cs.flatMap escaped ++ '"' :: rest) = some (cs, rest) := by
  induction cs with
  | nil => exact readString?_quote rest
  | cons c cs ih =>
      rw [List.flatMap_cons, List.append_assoc, readString?_escaped, ih]
      rfl

theorem readLiteral?_quoted (s : String) (rest : List Char) :
    readLiteral? ((quoted s).toList ++ rest) = some (s.toList, rest) := by
  have h := readString?_flatMap_escaped s.toList rest
  simpa [quoted, quotedChars, readLiteral?] using h

theorem literal?_quoted (s : String) : literal? (quoted s).toList = some s.toList := by
  have h := readLiteral?_quoted s []
  rw [List.append_nil] at h
  rw [literal?, h]

theorem literals?_last {cs text : List Char} (h : readLiteral? cs = some (text, [])) :
    literals? cs = some [String.ofList text] := by
  rw [literals?]
  split
  · rename_i hone
    rw [h] at hone
    cases hone
    rfl
  · rename_i hmore
    rw [h] at hmore
    cases hmore
  · rename_i hnone _
    exact absurd h (hnone text)

theorem literals?_next {cs text later : List Char}
    (h : readLiteral? cs = some (text, ',' :: ' ' :: later)) :
    literals? cs = (literals? later).map (String.ofList text :: ·) := by
  rw [literals?]
  split
  · rename_i hone
    rw [h] at hone
    cases hone
  · rename_i hmore
    rw [h] at hmore
    cases hmore
    rfl
  · rename_i _ hnone
    exact absurd h (hnone text later)

theorem literals?_quoted (name : String) (names : List String) :
    literals? (", ".intercalate ((name :: names).map quoted)).toList = some (name :: names) := by
  rw [String.toList_intercalate]
  induction names generalizing name with
  | nil =>
      have h := readLiteral?_quoted name []
      rw [List.append_nil] at h
      simp only [List.map_cons, List.map_nil, List.intercalate_singleton]
      rw [literals?_last h, String.ofList_toList]
  | cons next names ih =>
      have h := readLiteral?_quoted name
        (", ".toList ++ ", ".toList.intercalate (((next :: names).map quoted).map String.toList))
      rw [List.map_cons, List.map_cons, List.map_cons, List.map_cons, List.intercalate_cons_cons,
        ← List.map_cons, ← List.map_cons, List.append_assoc, literals?_next h,
        String.ofList_toList]
      exact congrArg (Option.map (name :: ·)) (ih next)

theorem toList_toString (n : Nat) : (toString n).toList = Nat.toDigits 10 n :=
  Nat.toList_repr

theorem isDigit_of_mem_toString {n : Nat} {c : Char} (h : c ∈ (toString n).toList) :
    c.isDigit := by
  rw [toList_toString] at h
  exact Nat.isDigit_of_mem_toDigits (by omega) (by omega) h

theorem natural?_toString (n : Nat) : natural? (toString n).toList = some n := by
  have hdigits : (Nat.toDigits 10 n).all Char.isDigit := by
    rw [List.all_eq_true, ← toList_toString]
    exact fun c hc => isDigit_of_mem_toString hc
  rw [toList_toString, natural?, if_pos ⟨Nat.toDigits_ne_nil, hdigits⟩,
    Nat.ofDigitChars_ten_toDigits]

theorem count?_toString {n : Nat} (h : n < 2 ^ 64) : count? (toString n).toList = some n := by
  simp only [count?, natural?_toString, Option.filter, h, decide_true]
  rfl

theorem toString_negSucc (n : Nat) : (toString (Int.negSucc n)).toList =
    '-' :: (toString (n + 1)).toList := by
  simp [toString, Int.repr]

theorem position?_toString {n : Int} (hn : n.natAbs < 2 ^ 63) :
    position? (toString n).toList = some n := by
  cases n with
  | ofNat n =>
      have hread := natural?_toString n
      have hsign : ∀ cs, (toString n).toList ≠ '-' :: cs := by
        intro cs heq
        have hmem : '-' ∈ (toString n).toList := by
          rw [heq]
          exact List.mem_cons_self
        exact absurd (isDigit_of_mem_toString hmem) (by decide)
      change n < 2 ^ 63 at hn
      change position? (toString n).toList = some (n : Int)
      unfold position?
      split
      · rename_i cs heq
        exact absurd heq (hsign cs)
      · simp only [hread, Option.filter, hn, decide_true]
        rfl
  | negSucc n =>
      have hn : n + 1 ≤ 2 ^ 63 := Nat.le_of_lt hn
      rw [toString_negSucc]
      simp only [position?, natural?_toString]
      simp only [Option.filter, hn, decide_true]
      rfl

end TextTemplate.Emission
