import TextTemplate.Proofs.ResolvedSegments
import TextTemplate.Proofs.SourcePieces
import TextTemplate.Proofs.SourcePlaces

/-!
Sources one behind the other. Unless a brace on either side makes a pair at the seam, the second
source is scanned as it is on its own; only the literal texts that meet there become one. Its
faults are those that it has alone, further back, and its output stands behind that of the first.
A fault inside an interpolation is found whatever follows.
-/
namespace TextTemplate
open FormatCache Fragment Piece Syntax

namespace Syntax

/-- Behind a closed list parsing starts afresh, unless there is a fault in the list. -/
theorem parseFrom_closed {front : List Piece} (h : Closed front) (offset : Nat) (cs : List Char) :
    parseFrom offset (spelled front ++ cs) =
      (parseFragments none (layOut offset front)).bind fun segments =>
        (parseFrom (offset + Text.byteSize (spelled front)) cs).map (segments ++ ·) := by
  simp only [parseFrom, h.scanFrom_append, parseFragments_append]

/-- A source with literal text in front of it, with which no brace makes a pair. The text becomes
part of the first literal, which stands there even if the source has none. -/
theorem parseFrom_literal_append {text cs : List Char} (hopen : Unpaired '\x7b' text)
    (hseam : ¬ (text.getLast? = some '\x7b' ∧ cs.head? = some '\x7b')) (offset : Nat) :
    ∃ (before : List Char) (behind : Except CompileError (List Segment)),
      parseFrom (offset + Text.byteSize text) cs =
        behind.map (literalSegments (offset + Text.byteSize text) before ++ ·) ∧
      parseFrom offset (text ++ cs) =
        behind.map (literalSegments offset (text ++ before) ++ ·) := by
  -- Where an opening pair stands in the source, it is also the first one behind the text.
  have hjoined {before rest : List Char} (hcs : cs = before ++ '\x7b' :: '\x7b' :: rest)
      (hbefore : Unpaired '\x7b' (before ++ ['\x7b'])) :
      Unpaired '\x7b' ((text ++ before) ++ ['\x7b']) := by
    rw [List.append_assoc, unpaired_append]
    refine ⟨hopen, hbefore, fun hpair => hseam ⟨hpair.1, ?_⟩⟩
    rw [hcs]
    cases before <;> exact hpair.2
  induction cs using source_induction with
  | literal before hbefore =>
      have hwhole : Unpaired '\x7b' (text ++ before) := unpaired_append.2 ⟨hopen, hbefore, hseam⟩
      refine ⟨before, .ok [], ?_, ?_⟩
      · simp [parseFrom_literal hbefore, Except.map]
      · simp [parseFrom_literal hwhole, Except.map]
  | unclosed before inside hbefore hclose =>
      have hwhole := hjoined rfl hbefore
      let start := offset + Text.byteSize text + Text.byteSize before
      refine ⟨before, .error ⟨.unterminatedInterpolation, .ofRange start (start + 2)⟩, ?_, ?_⟩
      · exact parseFrom_unclosed hbefore hclose _
      · rw [← List.append_assoc, parseFrom_unclosed hwhole hclose, Text.byteSize_append,
          ← Nat.add_assoc]
        rfl
  | interpolation before body after hbefore hclose _ =>
      have hwhole := hjoined rfl hbefore
      rw [← List.append_assoc, parseFrom_interpolation hwhole hclose,
        parseFrom_interpolation hbefore hclose, Text.byteSize_append, ← Nat.add_assoc]
      cases parseInterpolation _ _ _ with
      | error e => exact ⟨before, .error e, rfl, rfl⟩
      | ok i =>
          cases hafter : parseFrom (offset + Text.byteSize text + Text.byteSize before + 4 +
              Text.byteSize body) after with
          | error e => exact ⟨before, .error e, rfl, rfl⟩
          | ok rest => exact ⟨before, .ok (.interpolation i :: rest), rfl, rfl⟩

/-- Two sources of which the first one has a template. -/
theorem parseFrom_append {cs others : List Char} {offset : Nat} {segments : List Segment}
    (h : parseFrom offset cs = .ok segments)
    (hseam : ¬ (cs.getLast? = some '\x7b' ∧ others.head? = some '\x7b')) :
    ∃ (front : List Segment) (start : Nat) (text before : List Char)
        (behind : Except CompileError (List Segment)),
      segments = front ++ literalSegments start text ∧
      parseFrom (offset + Text.byteSize cs) others =
        behind.map (literalSegments (offset + Text.byteSize cs) before ++ ·) ∧
      parseFrom offset (cs ++ others) =
        behind.map (fun rest => front ++ (literalSegments start (text ++ before) ++ rest)) := by
  obtain ⟨pieces, rest, hclosed, rfl, hopen | ⟨before, inside, rfl, hopen, hclose⟩⟩ :=
    exists_closed_prefix cs
  · have hrest : ¬ (rest.getLast? = some '\x7b' ∧ others.head? = some '\x7b') := by
      intro hpair
      refine hseam ⟨?_, hpair.2⟩
      rw [List.getLast?_append, hpair.1]
      rfl
    rw [parseFrom_closed hclosed, parseFrom_literal hopen] at h
    obtain ⟨before, behind, halone, hjoined⟩ :=
      parseFrom_literal_append hopen hrest (offset + Text.byteSize (spelled pieces))
    rw [List.append_assoc, parseFrom_closed hclosed, Text.byteSize_append, ← Nat.add_assoc,
      halone, hjoined]
    cases hfront : parseFragments none (layOut offset pieces) with
    | error e => simp [hfront, Except.bind] at h
    | ok front =>
        simp only [hfront, Except.bind, Except.map, Except.ok.injEq] at h
        refine ⟨front, _, rest, before, behind, h.symm, rfl, ?_⟩
        cases behind <;> rfl
  · rw [parseFrom_closed hclosed, parseFrom_unclosed hopen hclose] at h
    cases hfront : parseFragments none (layOut offset pieces) <;>
      simp [hfront, Except.bind, Except.map] at h

/-- Two sources that both have templates. In the whole the other one has the same segments as alone,
up to their spans and the literal text at the seam. -/
theorem parseFrom_append_ok {cs others : List Char} {offset : Nat}
    {segments segments' : List Segment} (h : parseFrom offset cs = .ok segments)
    (h' : parseFrom 0 others = .ok segments')
    (hseam : ¬ (cs.getLast? = some '\x7b' ∧ others.head? = some '\x7b')) :
    ∃ (front rest : List Segment) (start start' : Nat) (text before : List Char),
      segments = front ++ literalSegments start text ∧
      segments'.map (Segment.relocate fun _ => .dummy) =
        (literalSegments start' before ++ rest).map (Segment.relocate fun _ => .dummy) ∧
      parseFrom offset (cs ++ others) =
        .ok (front ++ (literalSegments start (text ++ before) ++ rest)) := by
  obtain ⟨front, start, text, before, behind, hsegments, halone, hjoined⟩ :=
    parseFrom_append h hseam
  have hplaces := parseFrom_agree (agree_const .dummy 0 (offset + Text.byteSize cs)
    (Text.byteSize others))
  rw [h'] at hplaces
  obtain ⟨_, moved, hok, hmoved, hsame⟩ | ⟨e, _, herror, -⟩ := relocateOutcome_cases hplaces
  · cases hok
    rw [hmoved] at halone
    cases hbehind : behind with
    | error e => simp [hbehind, Except.map] at halone
    | ok rest =>
        simp only [hbehind, Except.map, Except.ok.injEq] at halone hjoined
        rw [halone] at hsame
        exact ⟨front, rest, start, _, text, before, hsegments, hsame, hjoined⟩
  · cases herror

/-- A fault inside an interpolation is found whatever follows. -/
theorem parseFrom_append_of_error {cs : List Char} {offset : Nat} {e : CompileError}
    (h : parseFrom offset cs = .error e) (hfault : e.fault ≠ .unterminatedInterpolation)
    (others : List Char) : parseFrom offset (cs ++ others) = .error e := by
  obtain ⟨pieces, rest, hclosed, rfl, hrest⟩ := exists_closed_prefix cs
  rw [List.append_assoc, parseFrom_closed hclosed]
  rw [parseFrom_closed hclosed] at h
  cases hfront : parseFragments none (layOut offset pieces) with
  | error e' =>
      rw [hfront] at h
      exact h
  | ok front =>
      rw [hfront] at h
      -- Behind the list there is no interpolation, so the source can only be left open.
      obtain hopen | ⟨before, inside, rfl, hopen, hclose⟩ := hrest
      · simp [parseFrom_literal hopen, Except.bind, Except.map] at h
      · simp only [parseFrom_unclosed hopen hclose, Except.bind, Except.map,
          Except.error.injEq] at h
        exact absurd (h ▸ rfl) hfault

end Syntax

namespace CompiledTemplate

/-- Two sources that both compile. -/
theorem compile_append_ok {source other : String}
    (hseam : ¬ (source.toList.getLast? = some '\x7b' ∧ other.toList.head? = some '\x7b'))
    {cache cache' after : FormatCache} (h : cache.WellFormed) (h' : cache'.WellFormed)
    (hafter : after.WellFormed) {t t' : CompiledTemplate}
    (ht : (compile source cache).1 = .ok t) (ht' : (compile other cache').1 = .ok t') :
    ∃ joined, (compile (source ++ other) after).1 = .ok joined ∧
      (∀ context, joined.evaluate context = t.evaluate context ++ t'.evaluate context) ∧
      joined.referencedProperties = t.referencedProperties ++
        t'.referencedProperties.filter (fun name => !t.referencedProperties.contains name) := by
  obtain ⟨segments, parts, hparse, hparts, rfl⟩ := (compile_outcome_eq_ok_iff h).1 ht
  obtain ⟨segments', parts', hparse', hparts', rfl⟩ := (compile_outcome_eq_ok_iff h').1 ht'
  obtain ⟨front, rest, start, start', text, before, rfl, hsame, hjoined⟩ :=
    parseFrom_append_ok hparse hparse' hseam
  obtain ⟨frontParts, _, hfront, htext, rfl⟩ := mapM_append_eq_ok_iff.1 hparts
  have hfresh := congrArg (List.mapM Part.fresh) hsame
  rw [Part.fresh_relocate, Part.fresh_relocate, hparts', eq_comm] at hfresh
  obtain ⟨_, restParts, hbefore, hrest, rfl⟩ :=
    mapM_append_eq_ok_iff.1 (relocateOutcome_eq_ok_iff.1 hfresh)
  rw [fresh_literalSegments] at htext hbefore
  cases htext
  cases hbefore
  have hroots := congrArg rootsOf hsame
  rw [rootsOf_relocate, rootsOf_relocate, rootsOf_append, rootsOf_literalSegments,
    List.nil_append] at hroots
  have hwhole : (front ++ (literalSegments start (text ++ before) ++ rest)).mapM Part.fresh =
      .ok (frontParts ++ (literalParts (text ++ before) ++ restParts)) := by
    simp only [mapM_append_eq_ok_iff]
    exact ⟨_, _, hfront, ⟨_, _, fresh_literalSegments _ _, hrest, rfl⟩, rfl⟩
  rw [← String.toList_append] at hjoined
  refine ⟨_, (compile_outcome_eq_ok_iff hafter).2 ⟨_, _, hjoined, hwhole, rfl⟩,
    fun context => ?_, ?_⟩
  · simp only [evaluate, Plan.evaluate, Plan.chars, List.flatMap_append, chars_literalParts,
      ← String.ofList_append, List.append_assoc]
  · simp only [referencedProperties_eq, rootsOf_append, rootsOf_literalSegments, hroots,
      List.append_nil, List.nil_append, eraseDups_append_filter]

end CompiledTemplate

namespace Template

/-- A source that has a template, and another one that has a fault. -/
theorem parse_append_error {source other : String}
    (hseam : ¬ (source.toList.getLast? = some '\x7b' ∧ other.toList.head? = some '\x7b'))
    {t : Template} {e : CompileError} (ht : parse source = .ok t) (he : parse other = .error e)
    (hsize : (source ++ other).utf8ByteSize < 2 ^ 32) :
    parse (source ++ other) = .error (e.relocate (.shift source.utf8ByteSize)) := by
  rw [parse_eq_error_iff] at he ⊢
  have hparse := parseFrom_of_writes (parse_eq_ok_iff.1 ht)
  obtain ⟨front, start, text, before, behind, -, halone, hjoined⟩ :=
    parseFrom_append hparse hseam
  have hfits : 0 + Text.byteSize source.toList + Text.byteSize other.toList ≤ Span.maxOffset := by
    rw [String.utf8ByteSize_append] at hsize
    rw [Text.byteSize_toList, Text.byteSize_toList, Span.maxOffset, UInt32.size]
    omega
  have hplaces := parseFrom_agree (agree_shift hfits)
  rw [he] at hplaces
  obtain ⟨_, _, hok, -, -⟩ | ⟨_, moved, herror, hmoved, hsame⟩ := relocateOutcome_cases hplaces
  · cases hok
  · cases herror
    rw [hmoved] at halone
    cases hbehind : behind with
    | ok rest => simp [hbehind, Except.map] at halone
    | error e' =>
        simp only [hbehind, Except.map, Except.error.injEq] at halone hjoined
        rw [String.toList_append, hjoined, ← Text.byteSize_toList, hsame, halone]
        rfl

theorem parse_append_of_error {source : String} {e : CompileError} (h : parse source = .error e)
    (hfault : e.fault ≠ .unterminatedInterpolation) (other : String) :
    parse (source ++ other) = .error e := by
  rw [parse_eq_error_iff] at h ⊢
  rw [String.toList_append]
  exact parseFrom_append_of_error h hfault other.toList

end Template

/-- Two sources one behind the other, with no pair of opening braces at the seam: if both compile,
the whole does, and it gives both texts and reads what both read; and a fault of the second one is
found further back. A fault of the first one inside an interpolation stays, whatever follows. -/
theorem CompiledTemplate.compile_append (source other : String) :
    (¬ (source.toList.getLast? = some '\x7b' ∧ other.toList.head? = some '\x7b') →
      (∀ cache cache' t t', Reachable cache → Reachable cache' →
        (compile source cache).1 = .ok t → (compile other cache').1 = .ok t' →
        ∀ after, Reachable after → ∃ joined, (compile (source ++ other) after).1 = .ok joined ∧
          (∀ context, joined.evaluate context = t.evaluate context ++ t'.evaluate context) ∧
          joined.referencedProperties = t.referencedProperties ++
            t'.referencedProperties.filter (fun name => !t.referencedProperties.contains name)) ∧
      (∀ t e, Template.parse source = .ok t → Template.parse other = .error e →
        (source ++ other).utf8ByteSize < 2 ^ 32 →
        Template.parse (source ++ other) = .error ⟨e.fault,
          ⟨e.span.start + source.utf8ByteSize, e.span.stop + source.utf8ByteSize⟩⟩)) ∧
    ∀ e, Template.parse source = .error e → e.fault ≠ .unterminatedInterpolation →
      Template.parse (source ++ other) = .error e := by
  refine ⟨fun hseam => ⟨?_, ?_⟩, ?_⟩
  · intro cache cache' t t' h h' ht ht' after hafter
    exact compile_append_ok hseam h.wellFormed h'.wellFormed hafter.wellFormed ht ht'
  · intro t e ht he hsize
    exact Template.parse_append_error hseam ht he hsize
  · intro e he hfault
    exact Template.parse_append_of_error he hfault other

/-- A single brace may stand at the seam, and so may a pair of closing ones; an opening pair at the
seam does not undo a fault in front of it. -/
theorem CompiledTemplate.compile_append_braces :
    let source := "é\x7b\x7ba|upper\x7d\x7d\x7b"
    let other := "x\x7d\x7d\x7b\x7bc|number:',.1f'\x7d\x7d\x7b\x7ba\x7d\x7d"
    let context := Value.object [("a", .str "y"), ("c", .number (.ofNat 2))]
    let used := (FormatCache.empty.getOrInsert .time "%Y").2
    (∃ joined, (compile (source ++ other) used).1 = .ok joined ∧
      joined.evaluate context = "éY\x7bx\x7d\x7d2.0y" ∧ joined.referencedProperties = ["a", "c"]) ∧
    Template.parse (source ++ "ß\x7b\x7bb|nope\x7d\x7d") =
      .error ⟨.unknownFilter "nope", ⟨20, 24⟩⟩ ∧
    Template.parse ("\x7b\x7ba b\x7d\x7d\x7b" ++ "\x7b c") =
      .error ⟨.unexpectedToken "b" .barOrEnd, ⟨4, 5⟩⟩ := by
  intro source other context used
  refine ⟨?_, ?_, ?_⟩
  · have hsource : (compile source .empty).1.toOption.map
        (fun t => (t.evaluate context, t.referencedProperties)) = some ("éY\x7b", ["a"]) := by
      decide +kernel
    have hother : (compile other .empty).1.toOption.map
        (fun t => (t.evaluate context, t.referencedProperties)) =
          some ("x\x7d\x7d2.0y", ["c", "a"]) := by
      decide +kernel
    obtain ⟨t, ht, hread⟩ := Option.map_eq_some_iff.1 hsource
    obtain ⟨t', ht', hread'⟩ := Option.map_eq_some_iff.1 hother
    obtain ⟨joined, hjoined, hevaluate, hproperties⟩ :=
      ((compile_append source other).1 (by decide)).1 .empty .empty t t' .empty .empty
        (eq_ok_of_toOption ht) (eq_ok_of_toOption ht') used (.getOrInsert .empty .time "%Y")
    rw [Prod.mk.injEq] at hread hread'
    refine ⟨joined, hjoined, ?_, ?_⟩
    · rw [hevaluate, hread.1, hread'.1]
      decide
    · rw [hproperties, hread.2, hread'.2]
      decide
  · have hparse : (Template.parse source).toOption.isSome := by decide +kernel
    obtain ⟨t, ht⟩ := Option.isSome_iff_exists.1 hparse
    have hfault : Template.parse "ß\x7b\x7bb|nope\x7d\x7d" =
        .error ⟨.unknownFilter "nope", ⟨6, 10⟩⟩ := by with_unfolding_all rfl
    exact ((compile_append source _).1 (by decide)).2 t _ (eq_ok_of_toOption ht) hfault (by decide)
  · have hfault : Template.parse "\x7b\x7ba b\x7d\x7d\x7b" =
        .error ⟨.unexpectedToken "b" .barOrEnd, ⟨4, 5⟩⟩ := by with_unfolding_all rfl
    exact (compile_append _ "\x7b c").2 _ hfault (by decide)

end TextTemplate
