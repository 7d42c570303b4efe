import Mathlib.Data.List.Forall2

/-!
Facts about lists, digits and outcomes that several developments use.
-/
namespace TextTemplate

theorem getElem?_of_prefix {α : Type} {older newer : List α} (h : older <+: newer) {position : Nat}
    {a : α} (ha : older[position]? = some a) : newer[position]? = some a := by
  obtain ⟨later, rfl⟩ := h
  obtain ⟨hlt, -⟩ := List.getElem?_eq_some_iff.1 ha
  rw [List.getElem?_append_left hlt, ha]

/-- A run of what satisfies a test ends where the first thing fails it. -/
theorem takeWhile_append_stop {α : Type} {p : α → Bool} {front rest : List α}
    (hfront : ∀ a ∈ front, p a = true) (hrest : ∀ a ∈ rest.head?, p a = false) :
    (front ++ rest).takeWhile p = front ∧ (front ++ rest).dropWhile p = rest := by
  rw [List.takeWhile_append_of_pos hfront, List.dropWhile_append_of_pos hfront]
  cases rest with
  | nil => simp
  | cons a rest =>
      have ha := hrest a rfl
      simp [ha]

theorem not_mem_intercalate {α : Type} {a : α} {separator : List α} (hs : a ∉ separator)
    {items : List (List α)} (h : ∀ item ∈ items, a ∉ item) : a ∉ separator.intercalate items := by
  induction items with
  | nil => simp
  | cons first rest ih =>
      rw [List.forall_mem_cons] at h
      cases rest with
      | nil => simpa using h.1
      | cons next rest => simp [h.1, hs, ih h.2]

theorem exists_digit_of_mem_toDigits {base : Nat} (hbase : 1 < base) {n : Nat} {c : Char}
    (h : c ∈ Nat.toDigits base n) : ∃ d < base, c = d.digitChar := by
  induction n using Nat.strongRecOn with
  | ind n ih =>
      by_cases hn : n < base
      · rw [Nat.toDigits_of_lt_base hn, List.mem_singleton] at h
        exact ⟨n, hn, h⟩
      · rw [Nat.toDigits_of_base_le hbase (Nat.le_of_not_lt hn), List.mem_append,
          List.mem_singleton] at h
        cases h with
        | inl h => exact ih (n / base) (Nat.div_lt_self (by omega) hbase) h
        | inr h => exact ⟨n % base, Nat.mod_lt _ (by omega), h⟩

/-- A number other than zero does not start with the digit zero. -/
theorem exists_toDigits_eq_cons {base : Nat} (hbase : 1 < base) {n : Nat} (hn : n ≠ 0) :
    ∃ d rest, d ≠ 0 ∧ d < base ∧ Nat.toDigits base n = d.digitChar :: rest := by
  induction n using Nat.strongRecOn with
  | ind n ih =>
      by_cases hlt : n < base
      · exact ⟨n, [], hn, hlt, Nat.toDigits_of_lt_base hlt⟩
      · have hle := Nat.le_of_not_lt hlt
        have hdiv : n / base ≠ 0 := Nat.ne_of_gt (Nat.div_pos hle (by omega))
        obtain ⟨d, rest, hd, hdlt, hrest⟩ :=
          ih (n / base) (Nat.div_lt_self (by omega) hbase) hdiv
        exact ⟨d, rest ++ [(n % base).digitChar], hd, hdlt, by
          rw [Nat.toDigits_of_base_le hbase hle, hrest, List.cons_append]⟩

theorem eq_ok_of_toOption {ε α : Type} {outcome : Except ε α} {a : α}
    (h : outcome.toOption = some a) : outcome = .ok a := by
  cases outcome with
  | ok b =>
      cases h
      rfl
  | error e => cases h

theorem exists_ok_of_map {ε α β : Type} {f : α → β} {outcome : Except ε α} {b : β}
    (h : outcome.map f = .ok b) : ∃ a, outcome = .ok a := by
  cases outcome with
  | ok a => exact ⟨a, rfl⟩
  | error e => cases h

theorem eraseDups_filter {α : Type} [BEq α] [LawfulBEq α] (p : α → Bool) (l : List α) :
    (l.filter p).eraseDups = l.eraseDups.filter p := by
  -- Behind an element the list is filtered again, so the induction is on the length.
  induction hlength : l.length using Nat.strongRecOn generalizing l with
  | ind length ih =>
      cases l with
      | nil => rfl
      | cons a l =>
          have hshorter : (l.filter fun b => !b == a).length < length := by
            have hle := List.length_filter_le (fun b => !b == a) l
            simp only [List.length_cons] at hlength
            omega
          have hrest := ih _ hshorter (l.filter fun b => !b == a) rfl
          rw [List.eraseDups_cons]
          by_cases ha : p a = true
          · rw [List.filter_cons_of_pos ha, List.filter_cons_of_pos ha, List.eraseDups_cons,
              ← hrest, List.filter_filter, List.filter_filter]
            simp only [Bool.and_comm]
          · rw [List.filter_cons_of_neg ha, List.filter_cons_of_neg ha, ← hrest,
              List.filter_filter]
            congr 1
            refine List.filter_congr fun b _ => ?_
            by_cases hb : b = a
            · simp [hb, ha]
            · simp [hb]

/-- Of two lists one behind the other, the second one adds what is not in the first. -/
theorem eraseDups_append_filter {α : Type} [BEq α] [LawfulBEq α] (as bs : List α) :
    (as ++ bs).eraseDups =
      as.eraseDups ++ bs.eraseDups.filter (fun b => !as.eraseDups.contains b) := by
  rw [List.eraseDups_append, List.removeAll, eraseDups_filter]
  congr 2
  funext b
  rw [Bool.eq_iff_iff]
  simp

theorem mapM_cons_eq_ok_iff {ε α β : Type} {f : α → Except ε β} {a : α} {as : List α}
    {cs : List β} :
    (a :: as).mapM f = .ok cs ↔ ∃ b bs, f a = .ok b ∧ as.mapM f = .ok bs ∧ cs = b :: bs := by
  rw [List.mapM_cons]
  cases f a with
  | error e => simp [bind, Except.bind]
  | ok b =>
      cases as.mapM f with
      | error e => simp [bind, Except.bind]
      | ok bs => simp [bind, Except.bind, pure, Except.pure, eq_comm]

theorem mapM_append_eq_ok_iff {ε α β : Type} {f : α → Except ε β} {as bs : List α} {cs : List β} :
    (as ++ bs).mapM f = .ok cs ↔
      ∃ xs ys, as.mapM f = .ok xs ∧ bs.mapM f = .ok ys ∧ cs = xs ++ ys := by
  rw [List.mapM_append]
  cases as.mapM f with
  | error e => simp [bind, Except.bind]
  | ok xs =>
      cases bs.mapM f with
      | error e => simp [bind, Except.bind]
      | ok ys => simp [bind, Except.bind, pure, Except.pure, eq_comm]

theorem exists_of_forall₂ {α β : Type} {R : α → β → Prop} {as : List α} {bs : List β}
    (h : List.Forall₂ R as bs) : ∀ a ∈ as, ∃ b, R a b := by
  induction h with
  | nil => simp
  | cons hab _ ih =>
      rw [List.forall_mem_cons]
      exact ⟨⟨_, hab⟩, ih⟩

/-- What is related to some of the things in a list is related to some of what they are related
to. -/
theorem exists_sublist_of_forall₂ {α β γ : Type} {R : α → β → Prop} {S : β → γ → Prop}
    {as : List α} {bs chosen : List β} {cs : List γ} (h : List.Forall₂ R as bs)
    (hsub : chosen.Sublist bs) (hchosen : List.Forall₂ S chosen cs) :
    ∃ front, front.Sublist as ∧ List.Forall₂ (fun a c => ∃ b, R a b ∧ S b c) front cs := by
  induction hsub generalizing as cs with
  | slnil =>
      cases hchosen
      exact ⟨[], List.nil_sublist _, .nil⟩
  | cons b _ ih =>
      cases h with
      | cons _ hrest =>
          obtain ⟨front, hfront, hrel⟩ := ih hrest hchosen
          exact ⟨front, hfront.cons _, hrel⟩
  | cons_cons b _ ih =>
      cases h with
      | cons hab hrest =>
          cases hchosen with
          | cons hbc hchosen =>
              obtain ⟨front, hfront, hrel⟩ := ih hrest hchosen
              exact ⟨_ :: front, hfront.cons_cons _, .cons ⟨b, hab, hbc⟩ hrel⟩

end TextTemplate
