import TextTemplate.Proofs.FaultMarks
import TextTemplate.Proofs.SourcePieces
import TextTemplate.Proofs.SourceSlices

/-!
Where errors of compiling are reported. Each is one of scanning, of parsing one of the fragments, or
of a call in a fragment that was parsed, and its span marks the text that its fault speaks of.
-/
namespace TextTemplate
open FormatCache Syntax

theorem Token.isGap_of_lexFrom_eq_nil {base offset : Nat} {cs : List Char}
    (h : lexFrom base offset cs = []) : ∀ c ∈ cs, Text.isGap c = true := by
  fun_induction lexFrom base offset cs with
  | case1 => simp
  | case2 offset c cs hgap ih => exact List.forall_mem_cons.2 ⟨hgap, ih h⟩
  | case3 => cases h

namespace Syntax

/-- Outcomes other than literal text are those of interpolations. -/
theorem exists_interpolation_of_parseFragment {f : Fragment}
    {outcome : Except CompileError Interpolation}
    (h : parseFragment f = outcome.map Segment.interpolation) :
    ∃ body bodySpan span, f = .interpolation body bodySpan span ∧
      parseInterpolation body bodySpan span = outcome := by
  cases f with
  | literal text span => cases outcome <;> cases h
  | interpolation body bodySpan span =>
      refine ⟨body, bodySpan, span, rfl, ?_⟩
      rw [parseFragment] at h
      cases hbody : parseInterpolation body bodySpan span <;> cases outcome <;>
        simp_all [Except.map]

/-- A source has no segments because of the fault of its scan, or of one of its fragments. -/
theorem parseFragments_error {scanFault : Option CompileError} {fragments : List Fragment}
    {e : CompileError} (h : parseFragments scanFault fragments = .error e) :
    scanFault = some e ∨ ∃ f ∈ fragments, parseFragment f = .error e := by
  induction fragments with
  | nil => cases scanFault <;> simp_all [parseFragments]
  | cons f fragments ih =>
      rw [parseFragments] at h
      split at h
      · rename_i hf
        cases h
        exact .inr ⟨f, List.mem_cons_self, hf⟩
      · split at h
        · rename_i hrest
          cases h
          obtain hscan | ⟨f', hf', hfault⟩ := ih hrest
          · exact .inl hscan
          · exact .inr ⟨f', List.mem_cons_of_mem f hf', hfault⟩
        · cases h

/-- Every segment is that of a fragment. -/
theorem exists_fragment_of_parseFragments {scanFault : Option CompileError}
    {fragments : List Fragment} {segments : List Segment}
    (h : parseFragments scanFault fragments = .ok segments) {segment : Segment}
    (hsegment : segment ∈ segments) : ∃ f ∈ fragments, parseFragment f = .ok segment := by
  induction fragments generalizing segments with
  | nil =>
      cases scanFault with
      | none =>
          cases h
          cases hsegment
      | some e => cases h
  | cons f fragments ih =>
      rw [parseFragments] at h
      split at h
      · cases h
      · rename_i first hf
        split at h
        · cases h
        · rename_i rest hrest
          cases h
          obtain rfl | hsegment := List.mem_cons.1 hsegment
          · exact ⟨f, List.mem_cons_self, hf⟩
          · obtain ⟨f', hf', hfound⟩ := ih hrest hsegment
            exact ⟨f', List.mem_cons_of_mem f hf', hfound⟩

end Syntax

/-- An error of building a plan is that of a call, whatever the cache holds. -/
theorem Plan.exists_failing_call {t : Template} {e : CompileError} {cache : FormatCache}
    (h : Reachable cache) (he : (build t cache).1 = .error e) :
    ∃ i ∈ t.interpolations, ∃ call ∈ i.filters, call.FailsWith e := by
  rw [← Resolution.effect_eq_error_iff, effect_build] at he
  obtain ⟨-, front, rest, hcalls, -, -, ⟨-, hok⟩ | ⟨call, later, e', rfl, hfails, herror⟩⟩ :=
    Step.effect_resolveAll t.calls h
  · rw [hok] at he
    cases he
  · rw [herror] at he
    cases he
    have hcall : call ∈ t.calls := by simp [hcalls]
    obtain ⟨i, hi, hmem⟩ := List.mem_flatMap.1 hcall
    exact ⟨i, hi, call, hmem, hfails⟩

namespace Fragment

/-- The interpolation has this error: it cannot be parsed, or it can and a call in it fails. -/
inductive AtFault (body : String) (bodySpan span : Span) (e : CompileError) :
    Option FilterCall → Prop
  | parse (h : parseInterpolation body bodySpan span = .error e) : AtFault body bodySpan span e none
  | resolve {i : Interpolation} {call : FilterCall}
      (h : parseInterpolation body bodySpan span = .ok i) (mem : call ∈ i.filters)
      (fails : call.FailsWith e) : AtFault body bodySpan span e (some call)

/-- An interpolation at fault is empty, or its error is at one of its places. -/
theorem AtFault.fits {body : String} {bodySpan span : Span} {e : CompileError}
    {failing : Option FilterCall} (h : AtFault body bodySpan span e failing) :
    ((∀ c ∈ body.toList, Text.isGap c = true) ∧ e = ⟨.emptyInterpolation, span⟩) ∨
      e.Fits (Token.ofBody body bodySpan.start) (.point bodySpan.stop) failing := by
  have hshaped := shaped_of_mem_ofBody body bodySpan.start
  cases h with
  | parse h =>
      rw [parseInterpolation_eq] at h
      obtain ⟨hnone, rfl⟩ | hfits := parseTokens_fits hshaped h
      · exact .inl ⟨Token.isGap_of_lexFrom_eq_nil hnone, rfl⟩
      · exact .inr hfits
  | @resolve i call h hcall hfails =>
      have hwrite := (writeInterpolation_of_parse h).1
      generalize Token.ofBody body bodySpan.start = tokens at hwrite hshaped
      cases hwrite with
      | @mk t ts _ _ _ hcalls =>
          obtain ⟨us, hus, hwrites⟩ := hcalls.exists_tokens hcall
          exact .inr (hwrites.fits hshaped (List.subset_cons_of_subset t hus) wellFormed_empty
            (hfails .empty .empty) _)

/-- The span of the error of an interpolation at fault marks, inside the interpolation, a text that
the fault is true of. -/
theorem AtFault.marks {source body : String} {bodySpan span : Span} {before after : List Char}
    (hplace : StandsIn source body bodySpan span before after)
    (hsize : source.utf8ByteSize < 2 ^ 32) {e : CompileError} {failing : Option FilterCall}
    (h : AtFault body bodySpan span e failing) :
    ∃ text, e.span.MarksIn span source text ∧
      e.fault.Marks (Token.ofBody body bodySpan.start) (.point bodySpan.stop) failing e.span
        text := by
  obtain ⟨hgaps, rfl⟩ | ⟨text, hinside, hmarks⟩ := h.fits
  · exact ⟨_, ⟨hplace.slice_span, Nat.le_refl _, Nat.le_refl _⟩, body, hgaps, rfl⟩
  · refine ⟨text, ?_, hmarks⟩
    generalize e.span = place at hinside
    cases hinside with
    | token ht => exact hplace.marksIn_token hsize ht
    | finish => exact hplace.marksIn_finish

end Fragment

/-- An interpolation that is never closed has its error at its opening braces. -/
theorem Scan.slice?_fault {source : String} (hsize : source.utf8ByteSize < 2 ^ 32)
    {e : CompileError} (h : (ofSource source).fault = some e) :
    e.fault = .unterminatedInterpolation ∧ ∃ before inside,
      source.toList = before ++ '\x7b' :: '\x7b' :: inside ∧ Unpaired '\x7d' inside ∧
      e.span.start = Text.byteSize before ∧ e.span.slice? source = some "\x7b\x7b" := by
  have hscan : (ofSource source).toExcept = .error e := by rw [toExcept, h]
  obtain ⟨pieces, before, inside, hopen, hsource, rfl⟩ := toExcept_eq_error_iff.1 hscan
  rw [← List.append_assoc] at hsource
  have hlength := Text.byteSize_toList source
  rw [hsource, byteSize_pair (by decide)] at hlength
  have hspan : Span.ofRange (Text.byteSize (Piece.spelled pieces ++ before))
      (Text.byteSize (Piece.spelled pieces ++ before) + 2) =
        ⟨Text.byteSize (Piece.spelled pieces ++ before),
          Text.byteSize (Piece.spelled pieces ++ before) + 2⟩ := by
    refine Span.ofRange_of_le (Nat.le_add_right _ _) ?_
    simp only [Span.maxOffset, UInt32.size]
    omega
  refine ⟨rfl, _, inside, hsource, hopen.unclosed, ?_, ?_⟩
  · rw [hspan]
  · refine Span.slice?_eq_some_iff.2 ⟨Piece.spelled pieces ++ before, inside, by simp [hsource], ?_⟩
    exact hspan

namespace CompiledTemplate

theorem compile_error_cases {source : String} {cache : FormatCache} (h : Reachable cache)
    {e : CompileError} (he : (compile source cache).1 = .error e) :
    (Scan.ofSource source).fault = some e ∨ ∃ body bodySpan span failing,
      .interpolation body bodySpan span ∈ (Scan.ofSource source).fragments ∧
      Fragment.AtFault body bodySpan span e failing := by
  have htemplate : Template.parse source =
      (parseFragments (Scan.ofSource source).fault (Scan.ofSource source).fragments).map
        Template.mk := rfl
  rw [compile, htemplate] at he
  cases hparse : parseFragments (Scan.ofSource source).fault (Scan.ofSource source).fragments with
  | error e' =>
      rw [hparse] at he
      cases he
      obtain hscan | ⟨f, hf, hfault⟩ := parseFragments_error hparse
      · exact .inl hscan
      · obtain ⟨body, bodySpan, span, rfl, hbody⟩ :=
          exists_interpolation_of_parseFragment (hfault.trans (Except.map_error _ e).symm)
        exact .inr ⟨body, bodySpan, span, none, hf, .parse hbody⟩
  | ok segments =>
      rw [hparse] at he
      obtain ⟨i, hi, call, hcall, hfails⟩ :=
        Plan.exists_failing_call h (Resolution.map_eq_error_iff.1 he)
      obtain ⟨segment, hsegment, heq⟩ := List.mem_filterMap.1 hi
      obtain ⟨f, hf, hparsed⟩ := exists_fragment_of_parseFragments hparse hsegment
      cases segment with
      | literal text span => cases heq
      | interpolation i' =>
          cases heq
          obtain ⟨body, bodySpan, span, rfl, hbody⟩ :=
            exists_interpolation_of_parseFragment (hparsed.trans (Except.map_ok _ i).symm)
          exact .inr ⟨body, bodySpan, span, some call, hf, .resolve hbody hcall hfails⟩

/-- The span of every error of compiling a source is in the source and marks a text of it. An
interpolation that is never closed has its error at its opening braces. All others are errors of a
fragment, whose braces stand around its body, and the text is inside the fragment and is what the
fault speaks of. -/
theorem compile_error_marks {source : String} (hsize : source.utf8ByteSize < 2 ^ 32)
    {cache : FormatCache} (h : Reachable cache) {e : CompileError}
    (he : (compile source cache).1 = .error e) :
    (e.span.start ≤ e.span.stop ∧ e.span.stop ≤ source.utf8ByteSize) ∧
    ((e.fault = .unterminatedInterpolation ∧ ∃ before inside,
      source.toList = before ++ '\x7b' :: '\x7b' :: inside ∧ Unpaired '\x7d' inside ∧
      e.span.start = Text.byteSize before ∧ e.span.slice? source = some "\x7b\x7b") ∨
    ∃ body bodySpan span failing text,
      .interpolation body bodySpan span ∈ (Scan.ofSource source).fragments ∧
      Fragment.AtFault body bodySpan span e failing ∧
      span.slice? source = some ("\x7b\x7b" ++ body ++ "\x7d\x7d") ∧
      (Span.mk bodySpan.stop span.stop).slice? source = some "\x7d\x7d" ∧
      e.span.MarksIn span source text ∧
      e.fault.Marks (Token.ofBody body bodySpan.start) (.point bodySpan.stop) failing e.span
        text) := by
  obtain hscan | ⟨body, bodySpan, span, failing, hmem, hfault⟩ := compile_error_cases h he
  · obtain ⟨hfault, before, inside, hsource, hopen, hstart, hslice⟩ :=
      Scan.slice?_fault hsize hscan
    exact ⟨Span.bounds_of_slice? hslice,
      .inl ⟨hfault, before, inside, hsource, hopen, hstart, hslice⟩⟩
  · obtain ⟨before, after, hplace⟩ := Fragment.exists_standsIn hsize hmem
    obtain ⟨text, hinside, hmarks⟩ := hfault.marks hplace hsize
    exact ⟨Span.bounds_of_slice? hinside.slice, .inr ⟨body, bodySpan, span, failing, text, hmem,
      hfault, hplace.slice_span, hplace.slice_closing, hinside, hmarks⟩⟩

/-- Behind characters of two and three bytes, an argument that is no direction is marked with its
quotes. -/
theorem compile_error_marks_argument :
    let source := "é\x7b\x7b ü | pad:4,'→' \x7d\x7d"
    ∃ e, (compile source .empty).1 = .error e ∧ e.span = ⟨16, 21⟩ ∧
      ∃ body bodySpan span failing,
        .interpolation body bodySpan span ∈ (Scan.ofSource source).fragments ∧
        Fragment.AtFault body bodySpan span e failing ∧
        e.span.MarksIn span source "'→'" ∧
        e.fault.Marks (Token.ofBody body bodySpan.start) (.point bodySpan.stop) failing e.span
          "'→'" := by
  intro source
  have herror : (compile source .empty).1 = .error ⟨.invalidArgument .pad
      "unknown direction `\"→\"`, expected `left`, `right` or `middle`", ⟨16, 21⟩⟩ := by
    decide +kernel
  refine ⟨_, herror, rfl, ?_⟩
  obtain ⟨-, ⟨hfault, -⟩ | ⟨body, bodySpan, span, failing, text, hmem, hfault, -, -, hinside,
    hmarks⟩⟩ := compile_error_marks (by decide +kernel) .empty herror
  · cases hfault
  · have htext : (Span.mk 16 21).slice? source = some "'→'" := by decide +kernel
    obtain rfl := Option.some.inj (hinside.slice.symm.trans htext)
    exact ⟨body, bodySpan, span, failing, hmem, hfault, hinside, hmarks⟩

end CompiledTemplate

end TextTemplate
