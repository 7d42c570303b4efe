import TextTemplate.Proofs.CanonicalBody
import TextTemplate.Proofs.OperationBounds
import TextTemplate.Proofs.ResolutionLaws

/-!
Canonical text is a faithful source. It is parsed as the template that it was made from, up to
spans, unless an interpolation ends in a keyword with a closing brace at its end, which no template
that compiles has. In the cache behind that compilation it compiles to the same plan.
-/
namespace TextTemplate
open FormatCache Resolution Syntax

theorem chars_literalSegments (offset : Nat) (text : List Char) :
    (literalSegments offset text).flatMap (·.chars) = text := by
  cases text <;> simp [literalSegments, Segment.chars]

theorem unplaced_literalSegments (offset other : Nat) (text : List Char) :
    (literalSegments offset text).map (·.unplaced) =
      (literalSegments other text).map (·.unplaced) := by
  cases text <;> rfl

theorem mem_literalSegments {offset : Nat} {text : List Char} {i : Interpolation} :
    .interpolation i ∉ literalSegments offset text := by
  cases text <;> simp [literalSegments]

/-- The characters of segments around an interpolation. -/
theorem chars_interpolation (offset : Nat) (before : List Char) (i : Interpolation)
    (rest : List Segment) :
    (literalSegments offset before ++ .interpolation i :: rest).flatMap (·.chars) =
      before ++ '\x7b' :: '\x7b' ::
        (i.bodyChars ++ '\x7d' :: '\x7d' :: rest.flatMap (·.chars)) := by
  rw [List.flatMap_append, chars_literalSegments, List.flatMap_cons]
  change before ++ (i.chars ++ _) = _
  rw [i.chars_eq]
  simp

theorem unplaced_interpolation {offset other : Nat} {before : List Char} {i j : Interpolation}
    {rest tail : List Segment}
    (h : (literalSegments other before ++ .interpolation j :: tail).map (·.unplaced) =
      (literalSegments offset before ++ .interpolation i :: rest).map (·.unplaced)) :
    j.unplaced = i.unplaced ∧ tail.map (·.unplaced) = rest.map (·.unplaced) := by
  rw [List.map_append, List.map_append, unplaced_literalSegments other offset,
    List.append_cancel_left_eq, List.map_cons, List.map_cons, List.cons.injEq] at h
  exact ⟨Segment.interpolation.inj h.1, h.2⟩

/-- Only an interpolation is read where one starts and ends. -/
theorem Writes.of_interpolation {offset : Nat} {before body after : List Char}
    {segments : List Segment}
    (h : Writes offset (before ++ '\x7b' :: '\x7b' :: (body ++ '\x7d' :: '\x7d' :: after)) segments)
    (hopen : Unpaired '\x7b' (before ++ ['\x7b'])) (hclose : Unpaired '\x7d' (body ++ ['\x7d'])) :
    ∃ bodySpan span j next rest, parseInterpolation (String.ofList body) bodySpan span = .ok j ∧
      Writes next after rest ∧
      segments = literalSegments offset before ++ .interpolation j :: rest := by
  rw [← parseFrom_eq_ok_iff, parseFrom_interpolation hopen hclose] at h
  split at h
  · cases h
  · rename_i j hparse
    cases hrest : parseFrom (offset + Text.byteSize before + 4 + Text.byteSize body) after with
    | error e => simp [hrest, Except.map] at h
    | ok rest =>
        simp only [hrest, Except.map, Except.ok.injEq] at h
        exact ⟨_, _, j, _, rest, hparse, parseFrom_eq_ok_iff.1 hrest, h.symm⟩

theorem faithful_of_writes {body : List Char} {i : Interpolation} {bodySpan span : Span}
    (hclose : Unpaired '\x7d' (body ++ ['\x7d']))
    (hparse : parseInterpolation (String.ofList body) bodySpan span = .ok i) : i.Faithful := by
  apply Interpolation.faithful_of_parse hparse
  rw [String.toList_ofList]
  exact unpaired_of_infix hclose (List.prefix_append _ _).isInfix

/-- The characters of parsed segments write these segments again. -/
theorem Writes.canonical {offset : Nat} {cs : List Char} {segments : List Segment}
    (h : Writes offset cs segments)
    (hends : ∀ i, .interpolation i ∈ segments → ¬ i.EndsInBrace) (other : Nat) :
    ∃ others, Writes other (segments.flatMap (·.chars)) others ∧
      others.map (·.unplaced) = segments.map (·.unplaced) := by
  induction h generalizing other with
  | @literal offset text unpaired =>
      rw [chars_literalSegments]
      exact ⟨_, .literal unpaired, unplaced_literalSegments _ _ _⟩
  | @interpolation offset start size before body after i rest hstart hsize opens closes parsed
      _ ih =>
      have hfaithful := faithful_of_writes closes parsed
      have hclosed := hfaithful.unpaired_closed (hends i (by simp))
      obtain ⟨j, hj, heq⟩ := hfaithful.parse_bodyChars
        (.ofRange (other + Text.byteSize before + 2)
          (other + Text.byteSize before + 2 + Text.byteSize i.bodyChars))
        (.ofRange (other + Text.byteSize before)
          (other + Text.byteSize before + 4 + Text.byteSize i.bodyChars))
      obtain ⟨others, hothers, hmap⟩ := ih (fun i hi => hends i (by simp [hi]))
        (other + Text.byteSize before + 4 + Text.byteSize i.bodyChars)
      refine ⟨literalSegments other before ++ .interpolation j :: others, ?_, ?_⟩
      · rw [chars_interpolation]
        exact .interpolation rfl rfl opens hclosed hj hothers
      · rw [List.map_append, List.map_append, List.map_cons, List.map_cons, hmap,
          unplaced_literalSegments other offset, Segment.unplaced, Segment.unplaced, heq]

/-- If an interpolation ends in such a keyword, then the characters of the segments write others. -/
theorem Writes.not_canonical {offset : Nat} {cs : List Char} {segments : List Segment}
    (h : Writes offset cs segments) {i : Interpolation} (hi : .interpolation i ∈ segments)
    (hends : i.EndsInBrace) {other : Nat} {others : List Segment}
    (hothers : Writes other (segments.flatMap (·.chars)) others) :
    others.map (·.unplaced) ≠ segments.map (·.unplaced) := by
  induction h generalizing other others with
  | literal unpaired => exact absurd hi mem_literalSegments
  | @interpolation offset start size before body after first rest hstart hsize opens closes parsed
      _ ih =>
      have hfaithful := faithful_of_writes closes parsed
      rw [chars_interpolation] at hothers
      by_cases hfirst : first.EndsInBrace
      · obtain ⟨shorter, hbody, hclosed, hdiffers⟩ := hfaithful.shorter_body hfirst
        rw [hbody, List.append_assoc, List.singleton_append] at hothers
        obtain ⟨bodySpan, span, j, next, tail, hj, -, rfl⟩ := hothers.of_interpolation opens hclosed
        exact fun heq => hdiffers bodySpan span j hj (unplaced_interpolation heq).1
      · obtain ⟨bodySpan, span, j, next, tail, -, htail, rfl⟩ :=
          hothers.of_interpolation opens (hfaithful.unpaired_closed hfirst)
        have hrest : .interpolation i ∈ rest := by
          cases List.mem_append.1 hi with
          | inl hi => exact absurd hi mem_literalSegments
          | inr hi =>
              cases List.mem_cons.1 hi with
              | inl heq =>
                  cases heq
                  exact absurd hends hfirst
              | inr hi => exact hi
        exact fun heq => ih hrest htail (unplaced_interpolation heq).2

theorem mem_interpolations {t : Template} {i : Interpolation} :
    i ∈ t.interpolations ↔ .interpolation i ∈ t.segments := by
  rw [Template.interpolations, List.mem_filterMap]
  constructor
  · intro h
    obtain ⟨segment, hsegment, heq⟩ := h
    cases segment with
    | literal text span => cases heq
    | interpolation j =>
        cases heq
        exact hsegment
  · exact fun hi => ⟨_, hi, rfl⟩

/-- The canonical text of a parsed template is parsed as that template, if no interpolation ends
in a keyword with a closing brace at its end. -/
theorem Template.parse_canonical {source : String} {t : Template}
    (h : Template.parse source = .ok t) (hends : ∀ i ∈ t.interpolations, ¬ i.EndsInBrace) :
    ∃ u, Template.parse t.text = .ok u ∧ u.unplaced = t.unplaced := by
  obtain ⟨others, hothers, hmap⟩ := (parse_eq_ok_iff.1 h).canonical
    (fun i hi => hends i (mem_interpolations.2 hi)) 0
  refine ⟨⟨others⟩, parse_eq_ok_iff.2 ?_, congrArg Template.mk hmap⟩
  rwa [text, String.toList_ofList]

theorem Template.parse_not_canonical {source : String} {t u : Template}
    (h : Template.parse source = .ok t) {i : Interpolation} (hi : i ∈ t.interpolations)
    (hends : i.EndsInBrace) (hu : Template.parse t.text = .ok u) : u.unplaced ≠ t.unplaced := by
  rw [parse_eq_ok_iff, text, String.toList_ofList] at hu
  intro heq
  exact (parse_eq_ok_iff.1 h).not_canonical (mem_interpolations.1 hi) hends hu
    (congrArg Template.segments heq)

theorem ofKeyword?_getLast? {word : String} {side : Side} (h : Side.ofKeyword? word = some side) :
    word.toList.getLast? ≠ some '\x7d' := by
  unfold Side.ofKeyword? at h
  split at h <;> rename_i hright
  · rw [hright]
    decide
  split at h <;> rename_i hleft
  · rw [hleft]
    decide
  split at h <;> rename_i hmiddle
  · rcases hmiddle with rfl | rfl <;> decide
  · cases h

/-- A keyword of a call that resolves is a direction. -/
theorem Step.keyword_of_resolve {call : FilterCall} {step : Step Formatter}
    {cache after : FormatCache} (h : resolve call cache = (.ok step, after)) {word : String}
    {span : Span} (hmem : .keyword word span ∈ call.args) :
    ∃ side, Side.ofKeyword? word = some side := by
  obtain ⟨family, text, textSpan, -, hargs, -⟩ | ⟨outcome, heq, hoperation⟩ := resolve_cases call
  · rw [hargs, List.mem_singleton] at hmem
    cases hmem
  · rw [heq] at h
    cases outcome with
    | ok op => exact (Operation.ofCall_eq_ok_iff.1 (hoperation op rfl)).keyword hmem
    | error e => simp [Resolution.ofExcept, Except.map] at h

theorem Resolution.ok_of_mem_traverse {α β : Type} {f : α → Resolution β} {as : List α}
    {bs : List β} {cache after : FormatCache} (h : traverse f as cache = (.ok bs, after)) {a : α}
    (ha : a ∈ as) : ∃ b before behind, f a before = (.ok b, behind) := by
  induction as generalizing cache bs with
  | nil => cases ha
  | cons first as ih =>
      obtain ⟨b, rest, middle, hb, hrest, -⟩ := traverse_cons_eq_ok.1 h
      cases List.mem_cons.1 ha with
      | inl heq => exact ⟨b, cache, middle, heq ▸ hb⟩
      | inr ha => exact ih hrest ha

/-- A template with a plan has no keyword but directions, none of which ends in a brace. -/
theorem Plan.not_endsInBrace {t : Template} {plan : Plan} {cache after : FormatCache}
    (h : build t cache = (.ok plan, after)) {i : Interpolation} (hi : i ∈ t.interpolations) :
    ¬ i.EndsInBrace := by
  intro h
  obtain ⟨word, hword, hlast⟩ := h
  obtain ⟨f, span, hf, ha⟩ := Interpolation.lastKeyword?_eq_some_iff.1 hword
  obtain ⟨parts, hparts, -⟩ := map_eq_ok.1 h
  obtain ⟨part, before, behind, hpart⟩ := ok_of_mem_traverse hparts (mem_interpolations.1 hi)
  obtain ⟨steps, hsteps, -⟩ := map_eq_ok.1 hpart
  obtain ⟨step, before, behind, hstep⟩ := ok_of_mem_traverse hsteps (List.mem_of_getLast? hf)
  obtain ⟨side, hside⟩ := Step.keyword_of_resolve hstep (List.mem_of_getLast? ha)
  exact ofKeyword?_getLast? hside hlast

/-- The canonical text of a parsed template is parsed as that template up to spans, if no
interpolation ends in a keyword with a closing brace at its end; it is then its own canonical text,
and it compiles where its template has been compiled, with nothing added to the cache, to what gives
the same text in every context. All that compiles meets the condition, and where it is not met the
canonical text is never parsed as the same template. -/
theorem Template.parse_text {source : String} {t : Template} (h : Template.parse source = .ok t) :
    ((∀ i ∈ t.interpolations, ¬ i.EndsInBrace) →
      (∃ u, Template.parse t.text = .ok u ∧ u.unplaced = t.unplaced ∧ u.text = t.text) ∧
      ∀ cache after compiled, Reachable cache →
        CompiledTemplate.compile source cache = (.ok compiled, after) →
        ∃ again, CompiledTemplate.compile t.text after = (.ok again, after) ∧
          ∀ context, again.evaluate context = compiled.evaluate context) ∧
    (∀ cache after compiled, CompiledTemplate.compile source cache = (.ok compiled, after) →
      ∀ i ∈ t.interpolations, ¬ i.EndsInBrace) ∧
    ((∃ i ∈ t.interpolations, i.EndsInBrace) →
      ∀ u, Template.parse t.text = .ok u → u.unplaced ≠ t.unplaced) := by
  refine ⟨fun hends => ?_, fun cache after compiled hcompile i hi => ?_, ?_⟩
  · obtain ⟨u, hu, hplaces⟩ := Template.parse_canonical h hends
    refine ⟨⟨u, hu, hplaces, ?_⟩, fun cache after compiled hcache hcompile => ?_⟩
    · rw [← u.text_unplaced, hplaces, t.text_unplaced]
    · obtain ⟨plan, hplan, rfl⟩ := (CompiledTemplate.compile_eq_ok_iff h).1 hcompile
      have hlawful := Plan.build_lawful t
      have hafter := (hlawful.grown_of_eq hcache.wellFormed hplan).wellFormed
      have hagain := hlawful.again hcache.wellFormed hplan (.refl hafter)
      have hbuild : Plan.build u after = (.ok plan, after) := by
        rw [← Plan.build_unplaced u, hplaces, Plan.build_unplaced t]
        exact hagain
      exact ⟨_, (CompiledTemplate.compile_eq_ok_iff hu).2 ⟨plan, hbuild, rfl⟩, fun _ => rfl⟩
  · obtain ⟨plan, hplan, -⟩ := (CompiledTemplate.compile_eq_ok_iff h).1 hcompile
    exact Plan.not_endsInBrace hplan hi
  · intro h u hu
    obtain ⟨i, hi, hends⟩ := h
    exact Template.parse_not_canonical h hi hends hu

/-- The first source compiles, so that its canonical text is the same template; the second one ends
in a keyword that loses its brace. -/
theorem Template.parse_text_total :
    (∃ t u,
      Template.parse "total \x7b\x7b x.y | number : ',.2f' | pad: 1e1 , left\x7d\x7d !" = .ok t ∧
      t.text = "total \x7b\x7bx.y|number:\",.2f\"|pad:10,left\x7d\x7d !" ∧
      Template.parse t.text = .ok u ∧ u.unplaced = t.unplaced ∧ u.text = t.text) ∧
    ∃ t u, Template.parse "\x7b\x7b x | pad : 3 , a\x7d \x7d\x7d" = .ok t ∧
      t.text = "\x7b\x7bx|pad:3,a\x7d\x7d\x7d" ∧
      Template.parse t.text = .ok u ∧ u.unplaced ≠ t.unplaced := by
  refine ⟨?_, ?_⟩
  · have htext : (Template.parse
        "total \x7b\x7b x.y | number : ',.2f' | pad: 1e1 , left\x7d\x7d !").toOption.map (·.text) =
        some "total \x7b\x7bx.y|number:\",.2f\"|pad:10,left\x7d\x7d !" := by decide +kernel
    have hcompiles : (CompiledTemplate.compile
        "total \x7b\x7b x.y | number : ',.2f' | pad: 1e1 , left\x7d\x7d !"
        .empty).1.toOption.isSome := by
      decide +kernel
    obtain ⟨t, ht, htext⟩ := Option.map_eq_some_iff.1 htext
    have hparse := eq_ok_of_toOption ht
    obtain ⟨compiled, hcompiled⟩ := Option.isSome_iff_exists.1 hcompiles
    have hends := (parse_text hparse).2.1 .empty _ compiled
      (Prod.ext (eq_ok_of_toOption hcompiled) rfl)
    obtain ⟨⟨u, hu, hplaces, hsame⟩, -⟩ := (parse_text hparse).1 hends
    exact ⟨t, u, hparse, htext, hu, hplaces, hsame⟩
  · have hread : (Template.parse "\x7b\x7b x | pad : 3 , a\x7d \x7d\x7d").toOption.map
        (fun t => (t.text, decide (∃ i ∈ t.interpolations, i.EndsInBrace))) =
        some ("\x7b\x7bx|pad:3,a\x7d\x7d\x7d", true) := by decide +kernel
    have hagain : (Template.parse "\x7b\x7bx|pad:3,a\x7d\x7d\x7d").toOption.isSome := by
      decide +kernel
    obtain ⟨t, ht, hread⟩ := Option.map_eq_some_iff.1 hread
    obtain ⟨htext, hends⟩ := Prod.mk.inj hread
    obtain ⟨u, hu⟩ := Option.isSome_iff_exists.1 hagain
    have hparse := eq_ok_of_toOption ht
    have huparse : Template.parse t.text = .ok u := htext ▸ eq_ok_of_toOption hu
    exact ⟨t, u, hparse, htext, huparse,
      (parse_text hparse).2.2 (of_decide_eq_true hends) u huparse⟩

end TextTemplate
