import TextTemplate.Proofs.EmissionAddresses

/-!
The cache of formatters as a list of keys. Whatever is asked of a cache, it holds the list that the
requests for readable patterns have made since the last clearing, each key once and in the order of
the first request; both maps hold exactly these keys, with their positions. Between two clearings
the list only grows at its end, and behind a clearing every formatter is another one.
-/
namespace TextTemplate
namespace FormatCache

/-- What can be asked of a cache. -/
inductive Action where
  | getOrInsert (family : Family) (pattern : String)
  | getOrInsertIndexed (family : Family) (pattern : String)
  | get (family : Family) (pattern : String)
  | indexOf (family : Family) (pattern : String)
  | entries
  | size
  | clear
deriving DecidableEq, Repr

inductive Answer where
  | formatter (outcome : Except FormatError StoredFormatter)
  | indexed (outcome : Except FormatError (Nat × StoredFormatter))
  | found (stored : Option StoredFormatter)
  | position (position : Option Nat)
  | listed (stored : List StoredFormatter)
  | counted (size : Nat)
  | cleared
deriving Repr

/-- The answer to an action, and the cache after it. -/
def perform (cache : FormatCache) : Action → Answer × FormatCache
  | .getOrInsert family pattern =>
    ((.formatter ((cache.getOrInsert family pattern).1.map (·.2))),
      (cache.getOrInsert family pattern).2)
  | .getOrInsertIndexed family pattern =>
    (.indexed (cache.getOrInsert family pattern).1, (cache.getOrInsert family pattern).2)
  | .get family pattern => (.found (cache.get? family pattern), cache)
  | .indexOf family pattern => (.position (cache.indexOf? family pattern), cache)
  | .entries => (.listed cache.stored, cache)
  | .size => (.counted cache.size, cache)
  | .clear => (.cleared, cache.clear)

def run (cache : FormatCache) (actions : List Action) : FormatCache :=
  actions.foldl (fun cache action => (cache.perform action).2) cache

/-- What a request adds to a list of keys: a new key at the end, if its pattern can be read. -/
def addKey (keys : List (Family × String)) (family : Family) (pattern : String) :
    List (Family × String) :=
  if (family, pattern) ∈ keys ∨ (Formatter.parse family pattern).toOption = none then keys
  else keys ++ [(family, pattern)]

/-- The keys after an action, as a list that is only appended to, or dropped as a whole. -/
def keysAfter (keys : List (Family × String)) : Action → List (Family × String)
  | .getOrInsert family pattern | .getOrInsertIndexed family pattern => addKey keys family pattern
  | .clear => []
  | .get .. | .indexOf .. | .entries | .size => keys

/-- Both maps and the list of a cache are consistent, and no serial number is used twice. -/
structure Sound (cache : FormatCache) : Prop extends cache.WellFormed where
  keys_nodup : ∀ family, ((cache.index family).map (·.1)).Nodup
  total : cache.numbers.length + cache.times.length = cache.size
  serials : (cache.stored.map (·.serial)).Pairwise (· < ·)
  serial_lt : ∀ s ∈ cache.stored, s.serial < cache.built

theorem sound_of_stored_eq_nil {cache : FormatCache} (hn : cache.numbers = [])
    (ht : cache.times = []) (hs : cache.stored = []) : cache.Sound where
  toWellFormed := wellFormed_of_stored_eq_nil hn ht hs
  keys_nodup family := by cases family <;> simp [index, hn, ht]
  total := by simp [size, hn, ht, hs]
  serials := by simp [hs]
  serial_lt := by simp [hs]

theorem sound_empty : empty.Sound := sound_of_stored_eq_nil rfl rfl rfl

theorem index_push (cache : FormatCache) (f : Formatter) (family : Family) :
    (cache.push f).index family =
      if family = f.family then (f.pattern, cache.stored.length) :: cache.index family
      else cache.index family := by
  cases hf : f.family <;> cases family <;> simp [push, withIndex, index, hf]

theorem Sound.push {cache : FormatCache} (h : cache.Sound) {f : Formatter}
    (hparse : Formatter.parse f.family f.pattern = .ok f)
    (hnew : cache.indexOf? f.family f.pattern = none) : (cache.push f).Sound where
  toWellFormed := h.toWellFormed.push hparse hnew
  keys_nodup family := by
    rw [index_push]
    by_cases hfamily : family = f.family
    · rw [if_pos hfamily, List.map_cons, List.nodup_cons]
      refine ⟨fun hmem => ?_, h.keys_nodup family⟩
      obtain ⟨entry, hentry, hpattern⟩ := List.mem_map.1 hmem
      rw [indexOf?, List.lookup_eq_none_iff, ← hfamily] at hnew
      simpa [hpattern] using hnew entry hentry
    · rw [if_neg hfamily]
      exact h.keys_nodup family
  total := by
    have htotal := h.total
    cases hf : f.family <;>
      simp only [FormatCache.push, withIndex, index, size, hf, List.length_cons,
        List.length_append, List.length_nil] at htotal ⊢ <;> omega
  serials := by
    simp only [FormatCache.push, List.map_append, List.map_cons, List.map_nil,
      List.pairwise_append, List.pairwise_singleton, true_and]
    refine ⟨h.serials, fun older holder newest hnewest => ?_⟩
    obtain ⟨s, hs, rfl⟩ := List.mem_map.1 holder
    rw [List.mem_singleton.1 hnewest]
    exact h.serial_lt s hs
  serial_lt s hs := by
    simp only [FormatCache.push, List.mem_append, List.mem_singleton] at hs ⊢
    cases hs with
    | inl hs => exact Nat.lt_succ_of_lt (h.serial_lt s hs)
    | inr hs => simp [hs]

/-- What a request does to the cache: nothing, or it stores the formatter of a new key. -/
theorem WellFormed.after_getOrInsert {cache : FormatCache} (h : cache.WellFormed)
    (family : Family) (pattern : String) :
    (cache.getOrInsert family pattern).2 = cache ∨
      ∃ f, Formatter.parse f.family f.pattern = .ok f ∧
        cache.indexOf? f.family f.pattern = none ∧
        (cache.getOrInsert family pattern).2 = cache.push f := by
  obtain ⟨position, s, -, -, heq⟩ | ⟨f, hparse, hnew, -, heq⟩ | ⟨e, -, heq⟩ :=
    h.getOrInsert_cases family pattern
  · exact .inl (by rw [heq])
  · obtain ⟨rfl, rfl⟩ := Formatter.family_pattern_of_parse hparse
    exact .inr ⟨f, hparse, hnew, by rw [heq]⟩
  · exact .inl (by rw [heq])

/-- What an action does to the cache. -/
theorem WellFormed.after_perform {cache : FormatCache} (h : cache.WellFormed) (action : Action) :
    (cache.perform action).2 = cache ∨
      (∃ f, Formatter.parse f.family f.pattern = .ok f ∧
        cache.indexOf? f.family f.pattern = none ∧ (cache.perform action).2 = cache.push f) ∨
      action = .clear ∧ (cache.perform action).2 = cache.clear := by
  cases action with
  | getOrInsert family pattern | getOrInsertIndexed family pattern =>
      obtain hsame | hpush := h.after_getOrInsert family pattern
      · exact .inl hsame
      · exact .inr (.inl hpush)
  | get _ _ | indexOf _ _ | entries | size => exact .inl rfl
  | clear => exact .inr (.inr ⟨rfl, rfl⟩)

theorem WellFormed.perform {cache : FormatCache} (h : cache.WellFormed) (action : Action) :
    (cache.perform action).2.WellFormed := by
  obtain heq | ⟨f, hparse, hnew, heq⟩ | ⟨-, heq⟩ := h.after_perform action <;> rw [heq]
  · exact h
  · exact h.push hparse hnew
  · exact wellFormed_clear cache

theorem Sound.perform {cache : FormatCache} (h : cache.Sound) (action : Action) :
    (cache.perform action).2.Sound := by
  obtain heq | ⟨f, hparse, hnew, heq⟩ | ⟨-, heq⟩ := h.after_perform action <;> rw [heq]
  · exact h
  · exact h.push hparse hnew
  · exact sound_of_stored_eq_nil rfl rfl rfl

theorem Sound.run {cache : FormatCache} (h : cache.Sound) (actions : List Action) :
    (cache.run actions).Sound := by
  induction actions generalizing cache with
  | nil => exact h
  | cons action actions ih => exact ih (h.perform action)

theorem run_append (cache : FormatCache) (actions others : List Action) :
    cache.run (actions ++ others) = (cache.run actions).run others :=
  List.foldl_append

theorem entries_getOrInsert {cache : FormatCache} (h : cache.WellFormed) (family : Family)
    (pattern : String) :
    (cache.getOrInsert family pattern).2.entries = addKey cache.entries family pattern := by
  obtain ⟨position, s, hs, hparse, heq⟩ | ⟨f, hparse, hnew, -, heq⟩ | ⟨e, hparse, heq⟩ :=
    h.getOrInsert_cases family pattern
  · have hentry : cache.entries[position]? = some (family, pattern) := by
      obtain ⟨hfamily, hpattern⟩ := Formatter.family_pattern_of_parse hparse
      rw [entries_getElem?, hs, Option.map_some, hfamily, hpattern]
    rw [heq, addKey, if_pos (.inl (List.mem_of_getElem? hentry))]
  · obtain ⟨rfl, rfl⟩ := Formatter.family_pattern_of_parse hparse
    have hmem : (f.family, f.pattern) ∉ cache.entries := by
      intro hmem
      obtain ⟨position, hentry⟩ := List.mem_iff_getElem?.1 hmem
      rw [← h.indexOf?_iff, hnew] at hentry
      cases hentry
    rw [heq, addKey, if_neg (by simp [hmem, hparse, Except.toOption]), entries_push]
  · rw [heq, addKey, if_pos (.inr (by simp [hparse, Except.toOption]))]

theorem entries_perform {cache : FormatCache} (h : cache.WellFormed) (action : Action) :
    (cache.perform action).2.entries = keysAfter cache.entries action := by
  cases action with
  | getOrInsert family pattern | getOrInsertIndexed family pattern =>
      exact entries_getOrInsert h family pattern
  | get _ _ | indexOf _ _ | entries | size | clear => rfl

/-- A cache holds the keys that its history leaves. -/
theorem Sound.entries_run {cache : FormatCache} (h : cache.Sound) (actions : List Action) :
    (cache.run actions).entries = actions.foldl keysAfter cache.entries := by
  induction actions generalizing cache with
  | nil => rfl
  | cons action actions ih =>
      rw [List.foldl_cons, ← entries_perform h.toWellFormed]
      exact ih (h.perform action)

theorem WellFormed.entries_nodup {cache : FormatCache} (h : cache.WellFormed) :
    cache.entries.Nodup := by
  rw [List.Nodup, List.pairwise_iff_getElem]
  intro i j hi hj hlt heq
  have hfirst := (h.indexOf?_iff cache.entries[i].1 cache.entries[i].2 i).2
    (List.getElem?_eq_getElem hi)
  have hsecond := (h.indexOf?_iff cache.entries[j].1 cache.entries[j].2 j).2
    (List.getElem?_eq_getElem hj)
  rw [heq, hsecond, Option.some.injEq] at hfirst
  omega

theorem WellFormed.grown_perform {cache : FormatCache} (h : cache.WellFormed) {action : Action}
    (hclear : action ≠ .clear) : Grown cache (cache.perform action).2 := by
  obtain heq | ⟨f, hparse, hnew, heq⟩ | ⟨rfl, -⟩ := h.after_perform action
  · rw [heq]
    exact .refl h
  · rw [heq]
    exact ⟨h.push hparse hnew, List.prefix_append _ _⟩
  · exact absurd rfl hclear

theorem WellFormed.grown_run {cache : FormatCache} (h : cache.WellFormed) {actions : List Action}
    (hclear : .clear ∉ actions) : Grown cache (cache.run actions) := by
  induction actions generalizing cache with
  | nil => exact .refl h
  | cons action actions ih =>
      rw [List.mem_cons, not_or] at hclear
      have hgrown := h.grown_perform (Ne.symm hclear.1)
      exact hgrown.trans (ih hgrown.wellFormed hclear.2)

theorem WellFormed.built_le_perform {cache : FormatCache} (h : cache.WellFormed)
    (action : Action) : cache.built ≤ (cache.perform action).2.built := by
  obtain heq | ⟨f, -, -, heq⟩ | ⟨-, heq⟩ := h.after_perform action
  · exact Nat.le_of_eq (congrArg FormatCache.built heq).symm
  · have hbuilt : (cache.perform action).2.built = cache.built + 1 :=
      congrArg FormatCache.built heq
    omega
  · exact Nat.le_of_eq (congrArg FormatCache.built heq).symm

theorem Sound.built_le_run {cache : FormatCache} (h : cache.Sound) (actions : List Action) :
    cache.built ≤ (cache.run actions).built := by
  induction actions generalizing cache with
  | nil => exact Nat.le_refl _
  | cons action actions ih =>
      exact Nat.le_trans (h.built_le_perform action) (ih (h.perform action))

/-- All formatters that a cache has or will build have at least this serial number. -/
structure NewerThan (serial : Nat) (cache : FormatCache) : Prop where
  built : serial ≤ cache.built
  stored : ∀ s ∈ cache.stored, serial ≤ s.serial

theorem NewerThan.perform {cache : FormatCache} {serial : Nat} (h : NewerThan serial cache)
    (hwell : cache.WellFormed) (action : Action) : NewerThan serial (cache.perform action).2 where
  built := Nat.le_trans h.built (hwell.built_le_perform action)
  stored s hs := by
    obtain heq | ⟨f, -, -, heq⟩ | ⟨-, heq⟩ := hwell.after_perform action <;> rw [heq] at hs
    · exact h.stored s hs
    · simp only [push, List.mem_append, List.mem_singleton] at hs
      cases hs with
      | inl hs => exact h.stored s hs
      | inr hs =>
          rw [hs]
          exact h.built
    · simp [FormatCache.clear] at hs

theorem NewerThan.run {cache : FormatCache} {serial : Nat} (h : NewerThan serial cache)
    (hsound : cache.Sound) (actions : List Action) : NewerThan serial (cache.run actions) := by
  induction actions generalizing cache with
  | nil => exact h
  | cons action actions ih =>
      exact ih (h.perform hsound.toWellFormed action) (hsound.perform action)

/-- After a clearing nothing of what was stored before is left. -/
theorem Sound.newerThan_run {cache : FormatCache} (h : cache.Sound) {actions : List Action}
    (hclear : .clear ∈ actions) : NewerThan cache.built (cache.run actions) := by
  obtain ⟨front, rest, rfl⟩ := List.append_of_mem hclear
  have hfront := h.run front
  have hcleared : NewerThan cache.built ((cache.run front).perform .clear).2 :=
    ⟨h.built_le_run front, by simp [FormatCache.perform, FormatCache.clear]⟩
  rw [run_append]
  exact hcleared.run (hfront.perform .clear) rest

/-- The two answers to a request are the same but for the position. -/
theorem perform_of_getOrInsert {cache after : FormatCache} {family : Family} {pattern : String}
    {outcome : Except FormatError (Nat × StoredFormatter)}
    (h : cache.getOrInsert family pattern = (outcome, after)) :
    cache.perform (.getOrInsertIndexed family pattern) = (.indexed outcome, after) ∧
      cache.perform (.getOrInsert family pattern) = (.formatter (outcome.map (·.2)), after) := by
  simp only [FormatCache.perform, h, and_self]

/-- Every look-up of a pattern and every request for it is answered with the instance at a position,
and changes nothing. -/
structure Serves (cache : FormatCache) (family : Family) (pattern : String) (position : Nat)
    (s : StoredFormatter) : Prop where
  stored : cache.stored[position]? = some s
  parse_eq : Formatter.parse family pattern = .ok s.formatter
  indexOf : cache.perform (.indexOf family pattern) = (.position (some position), cache)
  get : cache.perform (.get family pattern) = (.found (some s), cache)
  getOrInsert : cache.perform (.getOrInsert family pattern) = (.formatter (.ok s), cache)
  getOrInsertIndexed :
    cache.perform (.getOrInsertIndexed family pattern) = (.indexed (.ok (position, s)), cache)

theorem WellFormed.serves {cache : FormatCache} (h : cache.WellFormed) {family : Family}
    {pattern : String} {position : Nat} {s : StoredFormatter}
    (hs : cache.stored[position]? = some s)
    (hparse : Formatter.parse family pattern = .ok s.formatter) :
    cache.Serves family pattern position s := by
  obtain ⟨hfamily, hpattern⟩ := Formatter.family_pattern_of_parse hparse
  have hi : cache.indexOf? family pattern = some position := by
    rw [h.indexOf?_iff, entries_getElem?, hs, Option.map_some, hfamily, hpattern]
  obtain ⟨s', hs', -, hfind⟩ := h.find?_eq_some hi
  cases hs.symm.trans hs'
  have hfound : cache.getOrInsert family pattern = (.ok (position, s), cache) := by
    simp [FormatCache.getOrInsert, hfind]
  obtain ⟨hindexed, hformatter⟩ := perform_of_getOrInsert hfound
  refine ⟨hs, hparse, ?_, ?_, hformatter, hindexed⟩
  · simp [FormatCache.perform, hi]
  · simp [FormatCache.perform, get?, hfind]

theorem get_of_indexOf?_eq_none {cache : FormatCache} {family : Family} {pattern : String}
    (hi : cache.indexOf? family pattern = none) :
    cache.perform (.get family pattern) = (.found none, cache) := by
  simp only [FormatCache.perform, get?, find?_eq_none hi, Option.map_none]

theorem WellFormed.exists_serves {cache : FormatCache} (h : cache.WellFormed) {family : Family}
    {pattern : String} {position : Nat} (hi : cache.indexOf? family pattern = some position) :
    ∃ s, cache.Serves family pattern position s := by
  obtain ⟨s, hs, hparse, -⟩ := h.find?_eq_some hi
  exact ⟨s, h.serves hs hparse⟩

/-- A pattern that can be read is served from the first request on. -/
theorem WellFormed.serves_getOrInsert {cache : FormatCache} (h : cache.WellFormed)
    {family : Family} {pattern : String} {f : Formatter}
    (hparse : Formatter.parse family pattern = .ok f) :
    ∃ position s after, cache.getOrInsert family pattern = (.ok (position, s), after) ∧
      after.WellFormed ∧ after.Serves family pattern position s := by
  have hfound : ∃ found after, cache.getOrInsert family pattern = (.ok found, after) := by
    obtain ⟨position, s, -, -, heq⟩ | ⟨g, -, -, -, heq⟩ | ⟨e, herror, -⟩ :=
      h.getOrInsert_cases family pattern
    · exact ⟨_, _, heq⟩
    · exact ⟨_, _, heq⟩
    · rw [hparse] at herror
      cases herror
  obtain ⟨⟨position, s⟩, after, heq⟩ := hfound
  obtain ⟨hafter, hs, hstored⟩ := h.getOrInsert_ok heq
  exact ⟨position, s, after, heq, hafter, hafter.serves hs hstored⟩

theorem WellFormed.getOrInsert_error {cache : FormatCache} (h : cache.WellFormed)
    {family : Family} {pattern : String} {e : FormatError}
    (hparse : Formatter.parse family pattern = .error e) :
    cache.getOrInsert family pattern = (.error e, cache) := by
  obtain ⟨position, s, -, hok, -⟩ | ⟨f, hok, -⟩ | ⟨e', herror, heq⟩ :=
    h.getOrInsert_cases family pattern
  · rw [hparse] at hok
    cases hok
  · rw [hparse] at hok
    cases hok
  · rw [hparse, Except.error.injEq] at herror
    rw [heq, herror]

theorem Serves.run {cache : FormatCache} {family : Family} {pattern : String} {position : Nat}
    {s : StoredFormatter} (hserves : cache.Serves family pattern position s)
    (h : cache.WellFormed) {actions : List Action} (hclear : .clear ∉ actions) :
    (cache.run actions).Serves family pattern position s := by
  have hgrown := h.grown_run hclear
  have hstored := getElem?_of_prefix hgrown.stored_prefix hserves.stored
  exact hgrown.wellFormed.serves hstored hserves.parse_eq

/-- Whatever has been asked of a new cache, it holds the list of keys that this has left, each once,
and both maps hold their positions. What is stored for a pattern is what reading it gives, and it is
served under its position until the cache is cleared, up to where the list only grows at its end;
so what was emitted with positions still stands for the same formatters. A pattern that cannot be
read changes nothing. After a clearing every instance is a new one. -/
theorem run_refines_keys (history : List Action) :
    let cache := empty.run history
    (cache.entries = history.foldl keysAfter [] ∧ cache.entries.Nodup ∧
      (∀ family pattern position, cache.indexOf? family pattern = some position ↔
        cache.entries[position]? = some (family, pattern)) ∧
      (∀ family, ((cache.index family).map (·.1)).Nodup) ∧
      cache.numbers.length + cache.times.length = cache.size ∧
      (cache.stored.map (·.serial)).Nodup) ∧
    (∀ family pattern position, cache.indexOf? family pattern = some position →
      ∃ s, ∀ further, .clear ∉ further →
        (cache.run further).Serves family pattern position s) ∧
    (∀ family pattern, cache.indexOf? family pattern = none →
      cache.perform (.get family pattern) = (.found none, cache)) ∧
    (∀ family pattern f, Formatter.parse family pattern = .ok f →
      ∃ position s after,
        cache.perform (.getOrInsertIndexed family pattern) =
          (.indexed (.ok (position, s)), after) ∧
        cache.perform (.getOrInsert family pattern) = (.formatter (.ok s), after) ∧
        ∀ further, .clear ∉ further → (after.run further).Serves family pattern position s) ∧
    (∀ family pattern e, Formatter.parse family pattern = .error e →
      cache.perform (.getOrInsertIndexed family pattern) = (.indexed (.error e), cache) ∧
      cache.perform (.getOrInsert family pattern) = (.formatter (.error e), cache)) ∧
    (∀ further, .clear ∉ further → cache.stored <+: (cache.run further).stored) ∧
    (∀ calls addressed after, Emission.addressAll calls cache = (.ok addressed, after) →
      ∃ steps, (Step.resolveAll calls cache).1 = .ok steps ∧
        ∀ further, .clear ∉ further →
          addressed.map (Emission.dereference? (after.run further).formatters) =
            steps.map some) ∧
    (∀ further, .clear ∈ further → ∀ s ∈ cache.stored,
      (∀ s' ∈ (cache.run further).stored, s'.serial ≠ s.serial) ∧
      ∃ position s' after,
        (cache.run further).perform
            (.getOrInsertIndexed s.formatter.family s.formatter.pattern) =
          (.indexed (.ok (position, s')), after) ∧
        s'.formatter = s.formatter ∧ s'.serial ≠ s.serial) := by
  intro cache
  have hsound : cache.Sound := sound_empty.run history
  have hwell := hsound.toWellFormed
  refine ⟨⟨?_, hwell.entries_nodup, hwell.indexOf?_iff, hsound.keys_nodup, hsound.total, ?_⟩,
    ?_, fun _ _ => get_of_indexOf?_eq_none, ?_, ?_, ?_, ?_, ?_⟩
  · exact sound_empty.entries_run history
  · exact hsound.serials.imp Nat.ne_of_lt
  · intro family pattern position hi
    obtain ⟨s, hserves⟩ := hwell.exists_serves hi
    exact ⟨s, fun further hclear => hserves.run hwell hclear⟩
  · intro family pattern f hparse
    obtain ⟨position, s, after, heq, hafter, hserves⟩ := hwell.serves_getOrInsert hparse
    obtain ⟨hindexed, hformatter⟩ := perform_of_getOrInsert heq
    exact ⟨position, s, after, hindexed, hformatter,
      fun further hclear => hserves.run hafter hclear⟩
  · intro family pattern e hparse
    exact perform_of_getOrInsert (hwell.getOrInsert_error hparse)
  · intro further hclear
    exact Grown.stored_prefix (hwell.grown_run hclear)
  · intro calls addressed after he
    obtain ⟨steps, hsteps, -, hlater⟩ := Emission.dereference?_addressAll hwell he
    have hafter := ((Emission.addressAll_lawful calls).grown_of_eq hwell he).wellFormed
    exact ⟨steps, hsteps, fun further hclear => hlater _ (hafter.grown_run hclear)⟩
  · intro further hclear s hs
    have hlater := hsound.run further
    have hnewer := hsound.newerThan_run hclear
    have hlt := hsound.serial_lt s hs
    have hparse := hwell.parse_eq s.formatter (List.mem_map_of_mem hs)
    obtain ⟨position, s', after, heq, -, hserves⟩ :=
      hlater.toWellFormed.serves_getOrInsert hparse
    obtain ⟨hindexed, -⟩ := perform_of_getOrInsert heq
    -- The request is one more action, so the cache behind it is newer as well.
    have hafter := hnewer.perform hlater.toWellFormed
      (.getOrInsertIndexed s.formatter.family s.formatter.pattern)
    rw [hindexed] at hafter
    refine ⟨fun s' hs' => ?_, position, s', after, hindexed, ?_, ?_⟩
    · have hle := hnewer.stored s' hs'
      omega
    · exact Except.ok.inj (hserves.parse_eq.symm.trans hparse)
    · have hle := hafter.stored s' (List.mem_of_getElem? hserves.stored)
      omega

/-- One pattern in both families, and another one that cannot be read. -/
theorem run_refines_keys_two :
    let cache := empty.run [.getOrInsert .number "d", .getOrInsertIndexed .number "q",
      .getOrInsertIndexed .time "d", .get .time "%Y", .getOrInsert .number "d"]
    cache.entries = [(.number, "d"), (.time, "d")] ∧
    (∃ s, ∀ further, .clear ∉ further →
      (cache.run further).perform (.getOrInsertIndexed .time "d") =
        (.indexed (.ok (1, s)), cache.run further)) ∧
    ∃ s, cache.stored[1]? = some s ∧ ∀ further, .clear ∈ further →
      ∀ s' ∈ (cache.run further).stored, s'.serial ≠ s.serial := by
  intro cache
  obtain ⟨⟨hentries, -, hindexes, -⟩, hserves, -, -, -, -, -, hcleared⟩ :=
    run_refines_keys [.getOrInsert .number "d", .getOrInsertIndexed .number "q",
      .getOrInsertIndexed .time "d", .get .time "%Y", .getOrInsert .number "d"]
  have hkeys : cache.entries = [(.number, "d"), (.time, "d")] := by
    rw [hentries]
    decide +kernel
  have hi : cache.indexOf? .time "d" = some 1 := (hindexes .time "d" 1).2 (by rw [hkeys]; rfl)
  obtain ⟨s, hs⟩ := hserves .time "d" 1 hi
  have hstored : cache.stored[1]? = some s := (hs [] (by decide)).stored
  exact ⟨hkeys, ⟨s, fun further hclear => (hs further hclear).getOrInsertIndexed⟩, s, hstored,
    fun further hclear => (hcleared further hclear s (List.mem_of_getElem? hstored)).1⟩

end FormatCache
end TextTemplate
