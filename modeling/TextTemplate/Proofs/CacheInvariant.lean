import TextTemplate.FormatCache
import TextTemplate.Proofs.Preliminaries

/-!
The invariant of the cache of formatters: the index of a family agrees with the list of stored
formatters, and what is stored for a pattern is what reading that pattern gives. Every cache that
requests and clearing lead to has it, and between two clearings the list only grows at its end.
-/
namespace TextTemplate

theorem Formatter.family_pattern_of_parse {family : Family} {pattern : String} {f : Formatter}
    (h : Formatter.parse family pattern = .ok f) : f.family = family ∧ f.pattern = pattern := by
  cases family with
  | number =>
      simp only [Formatter.parse] at h
      split at h
      · cases h
        exact ⟨rfl, rfl⟩
      · cases h
  | time =>
      simp only [Formatter.parse] at h
      split at h
      · cases h
        exact ⟨rfl, rfl⟩
      · cases h

namespace FormatCache

/-- The formatters that positions stand for, in construction order. -/
def formatters (cache : FormatCache) : List Formatter :=
  cache.stored.map (·.formatter)

structure WellFormed (cache : FormatCache) : Prop where
  indexOf?_iff : ∀ family pattern position,
    cache.indexOf? family pattern = some position ↔
      cache.entries[position]? = some (family, pattern)
  parse_eq : ∀ f ∈ cache.formatters, Formatter.parse f.family f.pattern = .ok f

/-- A later state of a cache that was not cleared in between. -/
structure Grown (older newer : FormatCache) : Prop where
  wellFormed : newer.WellFormed
  stored_prefix : older.stored <+: newer.stored

theorem Grown.refl {cache : FormatCache} (h : cache.WellFormed) : Grown cache cache :=
  ⟨h, List.prefix_refl _⟩

theorem Grown.trans {a b c : FormatCache} (hab : Grown a b) (hbc : Grown b c) : Grown a c :=
  ⟨hbc.wellFormed, hab.stored_prefix.trans hbc.stored_prefix⟩

theorem entries_getElem? (cache : FormatCache) (position : Nat) :
    cache.entries[position]? =
      cache.stored[position]?.map fun s => (s.formatter.family, s.formatter.pattern) := by
  simp [entries]

theorem wellFormed_of_stored_eq_nil {cache : FormatCache} (hn : cache.numbers = [])
    (ht : cache.times = []) (hs : cache.stored = []) : cache.WellFormed where
  indexOf?_iff family pattern position := by
    cases family <;> simp [indexOf?, index, entries, hn, ht, hs]
  parse_eq f hf := by simp [formatters, hs] at hf

theorem wellFormed_empty : empty.WellFormed :=
  wellFormed_of_stored_eq_nil rfl rfl rfl

theorem wellFormed_clear (cache : FormatCache) : cache.clear.WellFormed :=
  wellFormed_of_stored_eq_nil rfl rfl rfl

/-- In a well-formed cache a position in the index always has its formatter. -/
theorem WellFormed.find?_eq_some {cache : FormatCache} (h : cache.WellFormed) {family : Family}
    {pattern : String} {position : Nat} (hi : cache.indexOf? family pattern = some position) :
    ∃ s, cache.stored[position]? = some s ∧ Formatter.parse family pattern = .ok s.formatter ∧
      cache.find? family pattern = some (position, s) := by
  have hentry := (h.indexOf?_iff family pattern position).1 hi
  rw [entries_getElem?] at hentry
  obtain ⟨s, hs, hkey⟩ := Option.map_eq_some_iff.1 hentry
  refine ⟨s, hs, ?_, by simp [find?, hi, hs]⟩
  have hmem : s.formatter ∈ cache.formatters :=
    List.mem_map_of_mem (List.mem_of_getElem? hs)
  have hparse := h.parse_eq _ hmem
  rw [Prod.mk.injEq] at hkey
  rwa [hkey.1, hkey.2] at hparse

theorem find?_eq_none {cache : FormatCache} {family : Family} {pattern : String}
    (hi : cache.indexOf? family pattern = none) : cache.find? family pattern = none := by
  simp [find?, hi]

theorem indexOf?_push (cache : FormatCache) (f : Formatter) (family : Family)
    (pattern : String) :
    (cache.push f).indexOf? family pattern =
      if family = f.family ∧ pattern = f.pattern then some cache.stored.length
      else cache.indexOf? family pattern := by
  by_cases hp : pattern = f.pattern <;> cases hf : f.family <;> cases family <;>
    simp [push, withIndex, indexOf?, index, List.lookup_cons, hf, hp, beq_false_of_ne]

@[simp]
theorem entries_push (cache : FormatCache) (f : Formatter) :
    (cache.push f).entries = cache.entries ++ [(f.family, f.pattern)] := by
  simp [push, entries]

@[simp]
theorem length_entries (cache : FormatCache) : cache.entries.length = cache.stored.length :=
  List.length_map _

theorem WellFormed.indexOf?_lt {cache : FormatCache} (h : cache.WellFormed) {family : Family}
    {pattern : String} {position : Nat} (hi : cache.indexOf? family pattern = some position) :
    position < cache.stored.length := by
  rw [h.indexOf?_iff] at hi
  obtain ⟨hlt, -⟩ := List.getElem?_eq_some_iff.1 hi
  rwa [length_entries] at hlt

theorem WellFormed.push {cache : FormatCache} (h : cache.WellFormed) {f : Formatter}
    (hparse : Formatter.parse f.family f.pattern = .ok f)
    (hnew : cache.indexOf? f.family f.pattern = none) : (cache.push f).WellFormed where
  indexOf?_iff family pattern position := by
    have hold : cache.indexOf? family pattern = some position → position < cache.stored.length :=
      h.indexOf?_lt
    have hlength := cache.length_entries
    rw [indexOf?_push, entries_push]
    by_cases hkey : family = f.family ∧ pattern = f.pattern
    · obtain ⟨rfl, rfl⟩ := hkey
      -- The key is new, so no older entry has it.
      have hentry : cache.entries[position]? ≠ some (f.family, f.pattern) := by
        rw [Ne, ← h.indexOf?_iff, hnew]
        simp
      rw [if_pos ⟨rfl, rfl⟩]
      grind
    · rw [if_neg hkey, h.indexOf?_iff]
      rw [h.indexOf?_iff] at hold
      grind
  parse_eq g hg := by
    simp only [formatters, FormatCache.push, List.map_append, List.mem_append, List.map_cons,
      List.map_nil, List.mem_singleton] at hg
    cases hg with
    | inl hg => exact h.parse_eq g hg
    | inr heq =>
        rw [heq]
        exact hparse

/-- What a request can do: find its formatter, store a new one, or fail and change nothing. -/
theorem WellFormed.getOrInsert_cases {cache : FormatCache} (h : cache.WellFormed)
    (family : Family) (pattern : String) :
    (∃ position s, cache.stored[position]? = some s ∧
      Formatter.parse family pattern = .ok s.formatter ∧
      cache.getOrInsert family pattern = (.ok (position, s), cache)) ∨
    (∃ f, Formatter.parse family pattern = .ok f ∧ cache.indexOf? family pattern = none ∧
      (cache.push f).WellFormed ∧ cache.getOrInsert family pattern =
        (.ok (cache.stored.length, ⟨cache.built, f⟩), cache.push f)) ∨
    (∃ e, Formatter.parse family pattern = .error e ∧
      cache.getOrInsert family pattern = (.error e, cache)) := by
  cases hi : cache.indexOf? family pattern with
  | some position =>
      obtain ⟨s, hs, hparse, hfind⟩ := h.find?_eq_some hi
      exact .inl ⟨position, s, hs, hparse, by simp [getOrInsert, hfind]⟩
  | none =>
      refine .inr ?_
      have hfind := find?_eq_none hi
      cases hparse : Formatter.parse family pattern with
      | ok f =>
          obtain ⟨rfl, rfl⟩ := Formatter.family_pattern_of_parse hparse
          exact .inl ⟨f, rfl, rfl, h.push hparse hi, by simp [getOrInsert, hfind, hparse]⟩
      | error e => exact .inr ⟨e, rfl, by simp [getOrInsert, hfind, hparse]⟩

theorem WellFormed.grown_getOrInsert {cache : FormatCache} (h : cache.WellFormed)
    (family : Family) (pattern : String) :
    Grown cache (cache.getOrInsert family pattern).2 := by
  obtain ⟨position, s, -, -, heq⟩ | ⟨f, -, -, hf, heq⟩ | ⟨e, -, heq⟩ :=
    h.getOrInsert_cases family pattern
  · rw [heq]
    exact .refl h
  · rw [heq]
    exact ⟨hf, List.prefix_append _ _⟩
  · rw [heq]
    exact .refl h

/-- A request that succeeds leaves the formatter of its pattern at the position it returns. -/
theorem WellFormed.getOrInsert_ok {cache after : FormatCache} (h : cache.WellFormed)
    {family : Family} {pattern : String} {found : Nat × StoredFormatter}
    (hfound : cache.getOrInsert family pattern = (.ok found, after)) :
    after.WellFormed ∧ after.stored[found.1]? = some found.2 ∧
      Formatter.parse family pattern = .ok found.2.formatter := by
  obtain ⟨position, s, hs, hparse, heq⟩ | ⟨f, hparse, -, hf, heq⟩ | ⟨e, -, heq⟩ :=
    h.getOrInsert_cases family pattern <;> rw [heq] at hfound <;> cases hfound
  · exact ⟨h, hs, hparse⟩
  · exact ⟨hf, by simp [FormatCache.push], hparse⟩

/-- A formatter that was found or stored is found again at its position in every later state, and
finding it changes nothing. -/
theorem WellFormed.getOrInsert_again {cache after later : FormatCache} (h : cache.WellFormed)
    {family : Family} {pattern : String} {found : Nat × StoredFormatter}
    (hfound : cache.getOrInsert family pattern = (.ok found, after)) (hlater : Grown after later) :
    later.getOrInsert family pattern = (.ok found, later) := by
  obtain ⟨-, hstored, hparse⟩ := h.getOrInsert_ok hfound
  have hs := getElem?_of_prefix hlater.stored_prefix hstored
  have hi : later.indexOf? family pattern = some found.1 := by
    rw [hlater.wellFormed.indexOf?_iff, entries_getElem?, hs]
    obtain ⟨hfamily, hpattern⟩ := Formatter.family_pattern_of_parse hparse
    simp [hfamily, hpattern]
  obtain ⟨s, hs', -, hfind⟩ := hlater.wellFormed.find?_eq_some hi
  cases hs.symm.trans hs'
  simp [getOrInsert, hfind]

/-- The caches that requests and clearing lead to, starting with the empty one. -/
inductive Reachable : FormatCache → Prop
  | empty : Reachable .empty
  | getOrInsert {cache : FormatCache} (h : Reachable cache) (family : Family)
      (pattern : String) : Reachable (cache.getOrInsert family pattern).2
  | clear {cache : FormatCache} (h : Reachable cache) : Reachable cache.clear

theorem Reachable.wellFormed {cache : FormatCache} (h : Reachable cache) :
    cache.WellFormed := by
  induction h with
  | empty => exact wellFormed_empty
  | getOrInsert _ family pattern ih => exact (ih.grown_getOrInsert family pattern).wellFormed
  | clear _ _ => exact wellFormed_clear _

end FormatCache
end TextTemplate
