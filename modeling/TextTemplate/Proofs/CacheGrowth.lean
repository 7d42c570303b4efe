import TextTemplate.Proofs.CacheHistory
import TextTemplate.Proofs.ResolutionEffects

/-!
What building a plan adds to the cache of formatters. Calls are resolved in document order up to
the first one that fails, and the keys of those in front of it are added at the end, each once and
unless it is already stored. A source that has no template adds nothing, and neither does an
emission under a name that cannot bind the context.
-/
namespace TextTemplate
open FormatCache Resolution

/-- Family and pattern of a call that takes a pattern. -/
def FilterCall.key? (call : FilterCall) : Option (Family × String) :=
  match call.filter.family?, call.args with
  | some family, [.str pattern _] => some (family, pattern)
  | _, _ => none

/-- The call can be resolved, whatever the cache holds. -/
def FilterCall.Resolves (call : FilterCall) : Prop :=
  ∀ cache, Reachable cache → ∃ step, (Step.resolve call cache).1 = .ok step

/-- The call has this error, whatever the cache holds. -/
def FilterCall.FailsWith (call : FilterCall) (e : CompileError) : Prop :=
  ∀ cache, Reachable cache → (Step.resolve call cache).1 = .error e

namespace FormatCache

/-- What keys add to a list of keys: the new ones, each once, in the order of first use. -/
def newKeys (stored keys : List (Family × String)) : List (Family × String) :=
  keys.eraseDups.filter fun key => !stored.contains key

theorem newKeys_nil (stored : List (Family × String)) : newKeys stored [] = [] := rfl

theorem newKeys_singleton (stored : List (Family × String)) (key : Family × String) :
    newKeys stored [key] = if key ∈ stored then [] else [key] := by
  by_cases hkey : key ∈ stored <;> simp [newKeys, List.eraseDups_cons, hkey]

/-- Keys are added one after the other. -/
theorem append_newKeys_cons (stored keys : List (Family × String)) (key : Family × String) :
    stored ++ newKeys stored (key :: keys) =
      stored ++ newKeys stored [key] ++ newKeys (stored ++ newKeys stored [key]) keys := by
  have hrest : (keys.filter fun other => !other == key).eraseDups =
      keys.eraseDups.filter fun other => !other == key := eraseDups_filter _ _
  by_cases hkey : key ∈ stored
  · rw [newKeys_singleton, if_pos hkey, List.append_nil, newKeys, List.eraseDups_cons, hrest,
      List.filter_cons_of_neg (by simp [hkey]), List.filter_filter, newKeys]
    congr 1
    refine List.filter_congr fun other _ => ?_
    by_cases hother : other = key <;> simp [hother, hkey]
  · rw [newKeys_singleton, if_neg hkey, newKeys, List.eraseDups_cons, hrest,
      List.filter_cons_of_pos (by simp [hkey]), List.filter_filter, newKeys, List.append_assoc]
    congr 2
    refine List.filter_congr fun other _ => ?_
    by_cases hother : other = key <;> simp [hother]

/-- A request for a pattern that can be read adds its key. -/
theorem entries_getOrInsert_ok {cache after : FormatCache} (h : cache.WellFormed)
    {family : Family} {pattern : String} {found : Nat × StoredFormatter}
    (he : cache.getOrInsert family pattern = (.ok found, after)) :
    after.entries = cache.entries ++ newKeys cache.entries [(family, pattern)] := by
  obtain ⟨-, -, hparse⟩ := h.getOrInsert_ok he
  have hkeys := entries_getOrInsert h family pattern
  rw [he] at hkeys
  rw [hkeys, addKey, newKeys_singleton, hparse]
  by_cases hmem : (family, pattern) ∈ cache.entries <;> simp [hmem, Except.toOption]

end FormatCache

namespace Resolution

theorem formatter_snd (family : Family) (pattern : String) (span : Span) (cache : FormatCache) :
    (formatter family pattern span cache).2 = (cache.getOrInsert family pattern).2 := by
  rw [formatter]
  cases cache.getOrInsert family pattern with
  | mk outcome after => cases outcome <;> rfl

theorem formatter_error {family : Family} {pattern : String} {span : Span} {e : CompileError}
    {cache : FormatCache} (h : cache.WellFormed)
    (he : (formatter family pattern span cache).1 = .error e) :
    (formatter family pattern span cache).2 = cache := by
  obtain ⟨position, s, -, -, heq⟩ | ⟨f, -, -, -, heq⟩ | ⟨reason, -, heq⟩ :=
    h.getOrInsert_cases family pattern <;> simp [formatter, heq] at he ⊢

end Resolution

namespace Step

theorem family?_of_decodes {filter : Filter} {args : List Argument} {op : Operation}
    (h : Operation.Decodes filter args op) : filter.family? = none := by
  cases h <;> rfl

/-- A call that is resolved adds its key to the cache, if it takes a pattern. -/
theorem entries_resolve {call : FilterCall} {step : Step Formatter} {cache after : FormatCache}
    (h : cache.WellFormed) (he : resolve call cache = (.ok step, after)) :
    call.key?.map (·.1) = call.filter.family? ∧
      after.entries = cache.entries ++ newKeys cache.entries call.key?.toList := by
  obtain ⟨family, text, span, hfamily, hargs, heq⟩ | ⟨outcome, heq, hoperation⟩ :=
    resolve_cases call
  · have hkey : call.key? = some (family, text) := by simp [FilterCall.key?, hfamily, hargs]
    rw [heq] at he
    obtain ⟨found, hfound, -⟩ := map_eq_ok.1 he
    rw [hkey, hfamily]
    exact ⟨rfl, entries_getOrInsert_ok h (formatter_eq_ok.1 hfound)⟩
  · rw [heq] at he
    cases outcome with
    | error e => cases he
    | ok op =>
        cases he
        have hfamily := family?_of_decodes (Operation.ofCall_eq_ok_iff.1 (hoperation op rfl))
        have hkey : call.key? = none := by simp [FilterCall.key?, hfamily]
        simp [hkey, hfamily, newKeys_nil]

/-- A call that fails changes nothing. -/
theorem resolve_error {call : FilterCall} {e : CompileError} {cache : FormatCache}
    (h : cache.WellFormed) (he : (resolve call cache).1 = .error e) :
    (resolve call cache).2 = cache := by
  obtain ⟨family, text, span, -, -, heq⟩ | ⟨outcome, heq, -⟩ := resolve_cases call
  · rw [heq, map_eq_error_iff] at he
    rw [heq, map_snd]
    exact formatter_error h he
  · rw [heq]
    rfl

theorem reachable_resolve (call : FilterCall) {cache : FormatCache} (h : Reachable cache) :
    Reachable (resolve call cache).2 := by
  obtain ⟨family, text, span, -, -, heq⟩ | ⟨outcome, heq, -⟩ := resolve_cases call
  · rw [heq, map_snd, formatter_snd]
    exact .getOrInsert h family text
  · rw [heq]
    exact h

/-- What resolving calls does: those in front of the first one that fails add their keys. -/
theorem effect_resolveAll (calls : List FilterCall) {cache : FormatCache} (h : Reachable cache) :
    Reachable ((resolveAll calls).effect cache).2 ∧
      ∃ front rest, calls = front ++ rest ∧
        (∀ call ∈ front, call.Resolves ∧ call.key?.map (·.1) = call.filter.family?) ∧
        ((resolveAll calls).effect cache).2.entries =
          cache.entries ++ newKeys cache.entries (front.filterMap FilterCall.key?) ∧
        ((rest = [] ∧ ((resolveAll calls).effect cache).1 = .ok ()) ∨
          ∃ call later e, rest = call :: later ∧ call.FailsWith e ∧
            ((resolveAll calls).effect cache).1 = .error e) := by
  induction calls generalizing cache with
  | nil => exact ⟨h, [], [], rfl, by simp, (List.append_nil _).symm, .inl ⟨rfl, rfl⟩⟩
  | cons call calls ih =>
      have hsame (other : FormatCache) (hother : Reachable other) :
          (resolve call other).1 = (resolve call cache).1 :=
        resolve_stable call _ _ hother.wellFormed h.wellFormed
      have hmiddle := reachable_resolve call h
      rw [resolveAll, effect_traverse_cons, Resolution.bind, effect_eq]
      cases hcall : resolve call cache with
      | mk outcome middle =>
          rw [hcall] at hmiddle hsame
          cases outcome with
          | error e =>
              have hunchanged := resolve_error h.wellFormed (congrArg Prod.fst hcall)
              rw [hcall] at hunchanged
              subst hunchanged
              refine ⟨h, [], call :: calls, rfl, by simp, (List.append_nil _).symm, .inr ?_⟩
              exact ⟨call, calls, e, rfl, hsame, rfl⟩
          | ok step =>
              obtain ⟨hfamily, hentries⟩ := entries_resolve h.wellFormed hcall
              obtain ⟨hafter, front, rest, hcalls, hfront, hgrowth, hrest⟩ := ih hmiddle
              refine ⟨hafter, call :: front, rest, by rw [hcalls]; rfl, ?_, ?_, hrest⟩
              · rw [List.forall_mem_cons]
                exact ⟨⟨fun other hother => ⟨step, hsame other hother⟩, hfamily⟩, hfront⟩
              · refine hgrowth.trans ?_
                rw [hentries]
                cases hkey : call.key? with
                | none => simp [hkey, newKeys_nil]
                | some key =>
                    rw [List.filterMap_cons_some hkey, append_newKeys_cons]
                    rfl

end Step

namespace Plan

/-- Building a plan leaves what was stored where it is, and adds behind it the keys of the calls in
front of the first one that fails in document order, or of all calls, in the order of first use,
each once and unless it was already stored. A source without a template leaves the cache as it is,
and so does a name that cannot bind the context. -/
theorem entries_build {cache : FormatCache} (h : Reachable cache) :
    (∀ t : Template,
      Reachable (build t cache).2 ∧ cache.stored <+: (build t cache).2.stored ∧
      ∃ front rest, t.calls = front ++ rest ∧
        (∀ call ∈ front, call.Resolves ∧ call.key?.map (·.1) = call.filter.family?) ∧
        (build t cache).2.entries =
          cache.entries ++ newKeys cache.entries (front.filterMap FilterCall.key?) ∧
        ((rest = [] ∧ ∃ plan, (build t cache).1 = .ok plan) ∨
          ∃ call later e, rest = call :: later ∧ call.FailsWith e ∧
            (build t cache).1 = .error e)) ∧
    (∀ source e, Template.parse source = .error e → ∀ parameter collected,
      (CompiledTemplate.compile source cache).2 = cache ∧
        (Emission.ofSource source parameter collected cache).cache = cache) ∧
    (∀ parameter, Emission.isParameter parameter = false → ∀ collected,
      (∀ t, (Emission.ofTemplate t parameter collected cache).cache = cache) ∧
        ∀ source, (Emission.ofSource source parameter collected cache).cache = cache) := by
  refine ⟨fun t => ?_, fun source e he parameter collected => ?_, fun parameter hp collected => ?_⟩
  · obtain ⟨hafter, front, rest, hcalls, hfront, hgrowth, hrest⟩ :=
      Step.effect_resolveAll t.calls h
    rw [← effect_build] at hafter hgrowth hrest
    rw [effect_snd] at hafter hgrowth
    refine ⟨hafter, Grown.stored_prefix ((build_lawful t).grown h.wellFormed), front, rest, hcalls,
      hfront, hgrowth, ?_⟩
    simpa only [effect_eq_ok_iff, effect_eq_error_iff] using hrest
  · simp [CompiledTemplate.compile, Emission.ofSource, he, fail, Resolution.ofExcept]
  · have htemplate (t : Template) :
        (Emission.ofTemplate t parameter collected cache).cache = cache := by
      simp [Emission.ofTemplate, Emission.lines, hp, fail, Resolution.ofExcept]
    refine ⟨htemplate, fun source => ?_⟩
    rw [Emission.ofSource]
    split
    · exact htemplate _
    · rfl

/-- One pattern is stored before, one is used twice, and a call without its argument fails in front
of a pattern that is not reached. -/
theorem entries_build_partial :
    let cache := (FormatCache.empty.getOrInsert .time "%Y").2
    let call (filter : Filter) (args : List Argument) : FilterCall := ⟨filter, args, .dummy⟩
    let pattern (text : String) : Argument := .str text .dummy
    let path : Path := ⟨"a", [], .dummy⟩
    let t : Template :=
      ⟨[.interpolation ⟨path, [call .number [pattern ",.2f"], call .upper []], .dummy⟩,
        .literal "-" .dummy,
        .interpolation ⟨path, [call .time [pattern "%Y"], call .number [pattern ",.2f"],
          call .left [], call .number [pattern "d"]], .dummy⟩]⟩
    (∃ front failing later e, t.calls = front ++ failing :: later ∧
      (∀ call ∈ front, call.Resolves) ∧ failing.FailsWith e ∧ (build t cache).1 = .error e ∧
      (build t cache).2.entries =
        cache.entries ++ newKeys cache.entries (front.filterMap FilterCall.key?)) ∧
    (build t cache).2.entries = [(.time, "%Y"), (.number, ",.2f")] ∧
    (CompiledTemplate.compile "\x7b\x7ba|number:'d'\x7d\x7d\x7b\x7b" cache).2 = cache ∧
    (Emission.ofSource "\x7b\x7ba|number:'d'\x7d\x7d" "__v" [] cache).cache = cache := by
  intro cache call pattern path t
  have hcache : Reachable cache := .getOrInsert .empty .time "%Y"
  obtain ⟨hbuild, hsource, hparameter⟩ := entries_build hcache
  refine ⟨?_, by decide +kernel, ?_, (hparameter "__v" (by decide) []).2 _⟩
  · obtain ⟨-, -, front, rest, hcalls, hfront, hentries, hrest⟩ := hbuild t
    obtain ⟨-, plan, hok⟩ | ⟨failing, later, e, rfl, hfails, herror⟩ := hrest
    · have hnone : (build t cache).1.toOption = none := by decide +kernel
      rw [hok] at hnone
      cases hnone
    · exact ⟨front, failing, later, e, hcalls, fun call hcall => (hfront call hcall).1, hfails,
        herror, hentries⟩
  · have hparse : Template.parse "\x7b\x7ba|number:'d'\x7d\x7d\x7b\x7b" =
        .error ⟨.unterminatedInterpolation, ⟨16, 18⟩⟩ := by with_unfolding_all rfl
    exact (hsource _ _ hparse "obj" []).1

end Plan

end TextTemplate
