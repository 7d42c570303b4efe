import Mathlib.Computability.Language
import TextTemplate.Proofs.CollectedNames
import TextTemplate.Proofs.ErrorPlaces

/-!
Which names emission takes for the context. The emitted language has a grammar of identifiers, the
words that it uses itself, and words that it reserves without using them, and none of these words
can be bound. Emission refuses all names that cannot be bound but the words of the second kind, and
when it refuses one nothing is changed.
-/
namespace TextTemplate
open FormatCache
open scoped Computability

namespace Emission

/-- The words of one character between two others. -/
def interval (first last : Char) : Language Char :=
  {word | ∃ c, word = [c] ∧ first ≤ c ∧ c ≤ last}

def letter : Language Char := interval 'A' 'Z' + interval 'a' 'z' + interval '_' '_'

/-- The identifiers that are written in ASCII. -/
def identifiers : Language Char := letter * (letter + interval '0' '9')∗

/-- The words that the emitted language uses. -/
def strictKeywords : List String :=
  ["as", "break", "const", "continue", "crate", "else", "enum", "extern", "false", "fn", "for",
   "if", "impl", "in", "let", "loop", "match", "mod", "move", "mut", "pub", "ref", "return",
   "self", "Self", "static", "struct", "super", "trait", "true", "type", "unsafe", "use", "where",
   "while", "async", "await", "dyn"]

/-- The words that the emitted language reserves without using them. -/
def reservedKeywords : List String :=
  ["abstract", "become", "box", "do", "final", "macro", "override", "priv", "try", "typeof",
   "unsized", "virtual", "yield"]

/-- The name can bind the context: it is an identifier, but not the wildcard or a keyword, and it is
not one of the names that are kept for emitted locals. -/
structure CanBind (name : String) : Prop where
  identifier : name.toList ∈ identifiers
  not_wildcard : name ≠ "_"
  not_local : ¬ ['_', '_'] <+: name.toList
  not_strict : name ∉ strictKeywords
  not_reserved : name ∉ reservedKeywords

theorem mem_interval {first last : Char} {word : List Char} :
    word ∈ interval first last ↔ ∃ c, word = [c] ∧ first ≤ c ∧ c ≤ last := Iff.rfl

theorem mem_letter {word : List Char} :
    word ∈ letter ↔ ∃ c, word = [c] ∧ (c.isAlpha || c == '_') = true := by
  simp only [letter, Language.mem_add, mem_interval, ← exists_or, ← and_or_left]
  refine exists_congr fun c => and_congr_right fun _ => ?_
  have hunderscore : '_' ≤ c ∧ c ≤ '_' ↔ c = '_' := by
    constructor
    · exact fun h => Char.le_antisymm h.2 h.1
    · rintro rfl
      exact ⟨Char.le_refl _, Char.le_refl _⟩
  have hupper : c.isUpper = true ↔ 'A' ≤ c ∧ c ≤ 'Z' := decide_eq_true_iff
  have hlower : c.isLower = true ↔ 'a' ≤ c ∧ c ≤ 'z' :=
    Bool.and_eq_true_iff.trans (and_congr decide_eq_true_iff decide_eq_true_iff)
  have halpha : c.isAlpha = true ↔ c.isUpper = true ∨ c.isLower = true := Bool.or_eq_true_iff
  rw [Bool.or_eq_true, beq_iff_eq, halpha, hupper, hlower, hunderscore]

theorem mem_letter_or_digit {word : List Char} :
    word ∈ letter + interval '0' '9' ↔ ∃ c, word = [c] ∧ (c.isAlphanum || c == '_') = true := by
  rw [Language.mem_add, mem_letter, mem_interval, ← exists_or]
  refine exists_congr fun c => ?_
  rw [← and_or_left]
  refine and_congr_right fun _ => ?_
  have hdigit : '0' ≤ c ∧ c ≤ '9' ↔ c.isDigit = true := by simp [Char.isDigit, Char.le_def]
  simp only [hdigit, Char.isAlphanum, Bool.or_eq_true, beq_iff_eq]
  exact or_right_comm

/-- Where the words of a language are single characters, its closure has all texts of them. -/
theorem mem_kstar_of_singletons {l : Language Char} {p : Char → Bool}
    (h : ∀ word, word ∈ l ↔ ∃ c, word = [c] ∧ p c = true) (word : List Char) :
    word ∈ l∗ ↔ word.all p = true := by
  rw [Language.mem_kstar, List.all_eq_true]
  constructor
  · intro hword
    obtain ⟨words, rfl, hwords⟩ := hword
    intro c hc
    obtain ⟨single, hsingle, hc⟩ := List.mem_flatten.1 hc
    obtain ⟨d, rfl, hd⟩ := (h single).1 (hwords single hsingle)
    obtain rfl := List.mem_singleton.1 hc
    exact hd
  · intro hall
    refine ⟨word.map fun c => [c], ?_, fun single hsingle => ?_⟩
    · rw [← List.flatMap_def, List.flatMap_singleton']
    · obtain ⟨c, hc, rfl⟩ := List.mem_map.1 hsingle
      exact (h [c]).2 ⟨c, rfl, hall c hc⟩

theorem mem_identifiers {word : List Char} : word ∈ identifiers ↔ isIdentifier word = true := by
  have hrest := mem_kstar_of_singletons fun _ => mem_letter_or_digit
  rw [identifiers, Language.mem_mul]
  constructor
  · intro h
    obtain ⟨_, hfirst, rest, hmem, rfl⟩ := h
    obtain ⟨c, rfl, hc⟩ := mem_letter.1 hfirst
    rw [List.singleton_append, isIdentifier, hc, (hrest rest).1 hmem, Bool.and_self]
  · intro h
    cases word with
    | nil => cases h
    | cons c rest =>
        rw [isIdentifier, Bool.and_eq_true] at h
        exact ⟨[c], mem_letter.2 ⟨c, rfl, h.1⟩, rest, (hrest rest).2 h.2, rfl⟩

theorem isLocal_iff {word : List Char} : isLocal word = true ↔ ['_', '_'] <+: word := by
  constructor
  · intro h
    unfold isLocal at h
    split at h
    · exact List.prefix_append ['_', '_'] _
    · cases h
  · intro h
    obtain ⟨rest, rfl⟩ := h
    rfl

theorem mem_reservedWords {word : String} :
    word ∈ reservedWords ↔ word ∈ strictKeywords ∨ word = "_" := by
  -- the table has the same words in another order, and the wildcard
  have hperm : reservedWords.Perm (strictKeywords ++ ["_"]) := by decide
  rw [hperm.mem_iff, List.mem_append, List.mem_singleton]

/-- Of the names that cannot bind the context only the reserved words are taken. -/
theorem isParameter_iff (name : String) :
    isParameter name = true ↔ CanBind name ∨ name ∈ reservedKeywords := by
  -- the table lacks every one of them, and each is an identifier
  have htaken : ∀ word ∈ reservedKeywords, isParameter word = true := by decide
  constructor
  · intro h
    by_cases hreserved : name ∈ reservedKeywords
    · exact .inr hreserved
    · simp only [isParameter, Bool.and_eq_true, Bool.not_eq_true', List.contains_eq_mem,
        decide_eq_false_iff_not, mem_reservedWords, not_or] at h
      obtain ⟨⟨hidentifier, hlocal⟩, hstrict, hwildcard⟩ := h
      refine .inl ⟨mem_identifiers.2 hidentifier, hwildcard, fun hprefix => ?_, hstrict,
        hreserved⟩
      rw [isLocal_iff.2 hprefix] at hlocal
      cases hlocal
  · intro h
    obtain hbind | hreserved := h
    · have hlocal : isLocal name.toList = false := by
        rw [← Bool.not_eq_true, isLocal_iff]
        exact hbind.not_local
      simp [isParameter, mem_identifiers.1 hbind.identifier, hlocal, mem_reservedWords,
        hbind.not_strict, hbind.not_wildcard]
    · exact htaken name hreserved

end Emission

/-- No call has a fault of the parameter, so none of those is an error of building a plan. -/
theorem Plan.build_ne_invalidParameter {t : Template} {cache : FormatCache} (h : Reachable cache)
    (name : String) (place : Span) :
    (build t cache).1 ≠ .error ⟨.invalidParameter name, place⟩ := by
  intro he
  obtain ⟨i, -, call, -, hfails⟩ := exists_failing_call h he
  obtain ⟨least, most, hcount⟩ | ⟨arg, -, reason, hargument⟩ |
      ⟨text, span, family, reason, -, hpattern⟩ :=
    Step.resolve_error_cases wellFormed_empty (hfails .empty .empty)
  · cases hcount
  · cases hargument
  · cases hpattern

namespace Emission

/-- A template is emitted under every name that can bind the context and under the words that are
reserved without being used, as far as its name goes. Under all other names emission fails with a
fault that says the name, and leaves the cache and the collected names as they are. -/
theorem ofTemplate_parameter (t : Template) (name : String) (collected : List String)
    {cache : FormatCache} (h : Reachable cache) :
    let emission := ofTemplate t name collected cache
    ((∀ other place, emission.source ≠ .error ⟨.invalidParameter other, place⟩) ↔
      CanBind name ∨ name ∈ reservedKeywords) ∧
    (¬(CanBind name ∨ name ∈ reservedKeywords) →
      emission = ⟨.error ⟨.invalidParameter name, .point 0⟩, collected, cache⟩) := by
  intro emission
  rw [← isParameter_iff]
  have hrefused (hparameter : ¬isParameter name = true) :
      emission = ⟨.error ⟨.invalidParameter name, .point 0⟩, collected, cache⟩ := by
    simp only [emission, ofTemplate, lines, if_neg hparameter, Resolution.fail,
      Resolution.ofExcept]
  refine ⟨⟨fun hpasses => ?_, fun hparameter other place he => ?_⟩, hrefused⟩
  · by_contra hparameter
    exact hpasses name (.point 0) (by rw [hrefused hparameter])
  · exact Plan.build_ne_invalidParameter h other place
      ((source_eq_error_iff t hparameter collected h.wellFormed _).1 he)

/-- A name that can bind, a reserved word, a keyword and the name of a local. -/
theorem ofTemplate_parameter_words :
    let cache := (FormatCache.empty.getOrInsert .time "%Y").2
    let emission (name : String) :=
      ofTemplate ⟨[.interpolation ⟨⟨"a", ["b"], ⟨2, 5⟩⟩, [], ⟨0, 7⟩⟩]⟩ name ["c"] cache
    let refused (name : String) : Emission :=
      ⟨.error ⟨.invalidParameter name, .point 0⟩, ["c"], cache⟩
    CanBind "_ctx" ∧
      (∀ other place, (emission "_ctx").source ≠ .error ⟨.invalidParameter other, place⟩) ∧
      (∀ other place, (emission "try").source ≠ .error ⟨.invalidParameter other, place⟩) ∧
      emission "await" = refused "await" ∧ emission "__v" = refused "__v" := by
  intro cache emission refused
  have hcache : Reachable cache := .getOrInsert .empty .time "%Y"
  have hbind : CanBind "_ctx" :=
    ⟨mem_identifiers.2 (by decide), by decide, by decide, by decide, by decide⟩
  have hrefused : ∀ name, isParameter name = false → emission name = refused name := by
    intro name hname
    refine (ofTemplate_parameter _ name ["c"] hcache).2 ?_
    rw [← isParameter_iff, hname]
    exact Bool.false_ne_true
  exact ⟨hbind, (ofTemplate_parameter _ "_ctx" ["c"] hcache).1.2 (.inl hbind),
    (ofTemplate_parameter _ "try" ["c"] hcache).1.2 (.inr (by decide)),
    hrefused "await" (by decide), hrefused "__v" (by decide)⟩

/-- A template is emitted under a reserved word, which cannot bind the context. -/
theorem ofSource_reserved :
    ¬CanBind "yield" ∧
      ∃ text, (ofSource "\x7b\x7ba\x7d\x7d" "yield" [] .empty).source = .ok text := by
  refine ⟨fun hbind => hbind.not_reserved (by decide), ?_⟩
  have hsome : (ofSource "\x7b\x7ba\x7d\x7d" "yield" [] .empty).source.toOption.isSome := by
    decide +kernel
  obtain ⟨text, htext⟩ := Option.isSome_iff_exists.1 hsome
  exact ⟨text, eq_ok_of_toOption htext⟩

end Emission

end TextTemplate
