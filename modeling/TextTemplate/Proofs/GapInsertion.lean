import TextTemplate.Proofs.Concatenation
import TextTemplate.Proofs.TokenGaps

/-!
Gaps in sources. More gap characters between two tokens of an interpolation, or beside its braces,
leave the fragments around it and the lexemes of its body as they are. The template is the same up
to spans, and so are its plan and what compiling adds to the cache, or the fault.
-/
namespace TextTemplate
open Fragment Piece Syntax

/-- The fragment as it stands in a source. -/
def Fragment.chars : Fragment → List Char
  | .literal text _ => text.toList
  | .interpolation body _ _ => (Piece.interpolation body.toList).chars

namespace Piece

theorem chars_place (offset : Nat) (p : Piece) : (p.place offset).chars = p.chars := by
  cases p <;> simp [place, literalAt, interpolationAt, Fragment.chars, Piece.chars]

theorem map_chars_layOut (offset : Nat) (pieces : List Piece) :
    (layOut offset pieces).map Fragment.chars = pieces.map chars := by
  induction pieces generalizing offset with
  | nil => rfl
  | cons p pieces ih => rw [layOut, List.map_cons, List.map_cons, chars_place, ih]

theorem flatMap_chars_layOut (offset : Nat) (pieces : List Piece) :
    (layOut offset pieces).flatMap Fragment.chars = spelled pieces := by
  rw [List.flatMap_def, map_chars_layOut, spelled, List.flatMap_def]

/-- Where pieces are laid out, the ones in front of a fragment are laid out as well. -/
theorem layOut_eq_append {offset : Nat} {pieces : List Piece} {front rest : List Fragment}
    (h : layOut offset pieces = front ++ rest) :
    ∃ ps qs, pieces = ps ++ qs ∧ front = layOut offset ps ∧
      rest = layOut (offset + Text.byteSize (spelled ps)) qs := by
  induction front generalizing offset pieces with
  | nil => exact ⟨[], pieces, rfl, rfl, h.symm⟩
  | cons f front ih =>
      cases pieces with
      | nil => cases h
      | cons p pieces =>
          rw [layOut, List.cons_append, List.cons.injEq] at h
          obtain ⟨ps, qs, rfl, rfl, rfl⟩ := ih h.2
          refine ⟨p :: ps, qs, rfl, by rw [layOut, h.1], ?_⟩
          rw [spelled, spelled, List.flatMap_cons, Text.byteSize_append, Nat.add_assoc]

/-- Each interpolation of a source is laid out from one of the pieces that spell it. -/
theorem exists_of_layOut {pieces : List Piece} {before after : List Fragment} {body : String}
    {bodySpan span : Span}
    (h : layOut 0 pieces = before ++ .interpolation body bodySpan span :: after) :
    ∃ ps qs, pieces = ps ++ .interpolation body.toList :: qs ∧ before = layOut 0 ps ∧
      ∃ offset, after = layOut offset qs := by
  obtain ⟨ps, qs, rfl, hbefore, hrest⟩ := layOut_eq_append h
  cases qs with
  | nil => cases hrest
  | cons q qs =>
      rw [layOut, List.cons.injEq] at hrest
      cases q with
      | literal text => cases hrest.1
      | interpolation inside =>
          have hbody := (Fragment.interpolation.inj hrest.1).1
          refine ⟨ps, qs, ?_, hbefore, _, hrest.2⟩
          rw [hbody, String.toList_ofList]

theorem Legal.of_append {front rest : List Piece} (h : Legal (front ++ rest)) : Legal rest where
  literals text ht := h.literals text (List.mem_append_right front ht)
  bodies body hb := h.bodies body (List.mem_append_right front hb)
  neighbours := (List.isChain_append.1 h.neighbours).2.1

/-- Any other legal body may stand in the place of one. -/
theorem Legal.with_body {front rest : List Piece} {body other : List Char}
    (h : Legal (front ++ .interpolation body :: rest))
    (hclose : Unpaired '\x7d' (other ++ ['\x7d'])) :
    Legal (front ++ .interpolation other :: rest) where
  literals text ht := by
    refine h.literals text ?_
    simpa using ht
  bodies inside hi := by
    simp only [List.mem_append, List.mem_cons, interpolation.injEq] at hi
    obtain hi | rfl | hi := hi
    · exact h.bodies inside (by simp [hi])
    · exact unpaired_concat.1 hclose
    · exact h.bodies inside (by simp [hi])
  neighbours := by
    have hchain := h.neighbours
    rw [List.isChain_append, List.isChain_cons] at hchain ⊢
    refine ⟨hchain.1, ⟨fun _ _ => trivial, hchain.2.1.2⟩, fun p hp q hq => ?_⟩
    have hlast := hchain.2.2 p hp (.interpolation body) rfl
    cases hq
    cases p <;> exact hlast

theorem Legal.parseFrom_eq {pieces : List Piece} (h : Legal pieces) (offset : Nat) :
    parseFrom offset (spelled pieces) = parseFragments none (layOut offset pieces) := by
  rw [parseFrom, h.scanFrom_eq]

end Piece

/-- Gap characters make no pair of closing braces. -/
theorem unpaired_insert {gaps pre post : List Char} (hgaps : ∀ c ∈ gaps, Text.isGap c = true)
    (h : Unpaired '\x7d' (pre ++ post)) : Unpaired '\x7d' (pre ++ (gaps ++ post)) := by
  have hne : '\x7d' ∉ gaps := fun hmem => absurd (hgaps _ hmem) (by decide)
  cases gaps with
  | nil => exact h
  | cons g gaps =>
      rw [unpaired_append] at h
      rw [unpaired_append, unpaired_append]
      refine ⟨h.1, ⟨unpaired_of_not_mem hne, h.2.1, fun hpair => ?_⟩, fun hpair => ?_⟩
      · exact hne (List.mem_of_getLast? hpair.1)
      · have hhead : g = '\x7d' := by simpa using hpair.2
        exact hne (by simp [hhead])

/-- Tokens with the same lexemes are the same ones up to their places. -/
theorem map_relocate_of_lexemes {ts ts' : List Token} (h : ts.map (·.lexeme) = ts'.map (·.lexeme))
    (span : Span) :
    ts.map (Token.relocate fun _ => span) = ts'.map (Token.relocate fun _ => span) := by
  have hplaced (ts : List Token) : ts.map (Token.relocate fun _ => span) =
      (ts.map (·.lexeme)).map fun l => ⟨l.kind, String.ofList l.chars, span⟩ := by
    rw [List.map_map]
    refine List.map_congr_left fun t _ => ?_
    simp [Token.relocate, Token.lexeme]
  rw [hplaced, hplaced, h]

/-- What is parsed changes only in places if one fragment and those behind it do so. -/
theorem Syntax.parseFragments_congr {move : Span → Span} {front behind behind' : List Fragment}
    {f f' : Fragment}
    (hf : relocateOutcome move (Segment.relocate move) (parseFragment f) =
      relocateOutcome move (Segment.relocate move) (parseFragment f'))
    (hbehind : relocateOutcome move (List.map (Segment.relocate move))
        (parseFragments none behind) =
      relocateOutcome move (List.map (Segment.relocate move)) (parseFragments none behind')) :
    relocateOutcome move (List.map (Segment.relocate move))
        (parseFragments none (front ++ f :: behind)) =
      relocateOutcome move (List.map (Segment.relocate move))
        (parseFragments none (front ++ f' :: behind')) := by
  rw [parseFragments_append, parseFragments_append]
  cases parseFragments none front with
  | error e => rfl
  | ok segments =>
      simp only [parseFragments, Except.bind]
      obtain ⟨s, s', hs, hs', hsame⟩ | ⟨e, e', he, he', hsame⟩ := relocateOutcome_cases hf
      · rw [hs, hs']
        obtain ⟨ss, ss', hss, hss', hrest⟩ | ⟨e, e', he, he', hrest⟩ :=
          relocateOutcome_cases hbehind
        · simp [hss, hss', Except.map, relocateOutcome, hsame, hrest]
        · simp [he, he', Except.map, relocateOutcome, hrest]
      · simp [he, he', Except.map, relocateOutcome, hsame]

theorem Syntax.parseFragment_congr {move : Span → Span} {start start' : Nat}
    {body body' : List Char}
    (h : relocateOutcome move (Interpolation.relocate move)
        (parseInterpolation (String.ofList body)
          (.ofRange (start + 2) (start + 2 + Text.byteSize body))
          (.ofRange start (start + 4 + Text.byteSize body))) =
      relocateOutcome move (Interpolation.relocate move)
        (parseInterpolation (String.ofList body')
          (.ofRange (start' + 2) (start' + 2 + Text.byteSize body'))
          (.ofRange start' (start' + 4 + Text.byteSize body')))) :
    relocateOutcome move (Segment.relocate move) (parseFragment (interpolationAt start body)) =
      relocateOutcome move (Segment.relocate move)
        (parseFragment (interpolationAt start' body')) := by
  simp only [interpolationAt, parseFragment]
  obtain ⟨i, i', hi, hi', hsame⟩ | ⟨e, e', he, he', hsame⟩ := relocateOutcome_cases h
  · simp [hi, hi', Except.map, relocateOutcome, Segment.relocate, hsame]
  · simp [he, he', Except.map, relocateOutcome, hsame]

/-- With gaps between the tokens of one body, a source is parsed as before up to spans. -/
theorem Piece.Legal.parseFrom_insert {ps qs : List Piece} {pre post gaps : List Char}
    (h : Legal (ps ++ .interpolation (pre ++ post) :: qs))
    (h' : Legal (ps ++ .interpolation (pre ++ (gaps ++ post)) :: qs))
    (hlexemes : lexemes (pre ++ (gaps ++ post)) = lexemes (pre ++ post)) :
    let move : Span → Span := fun _ => .dummy
    relocateOutcome move (List.map (Segment.relocate move))
        (parseFrom 0 (spelled (ps ++ .interpolation (pre ++ post) :: qs))) =
      relocateOutcome move (List.map (Segment.relocate move))
        (parseFrom 0 (spelled (ps ++ .interpolation (pre ++ (gaps ++ post)) :: qs))) := by
  intro move
  have hbehind : Legal ([.interpolation (pre ++ post)] ++ qs) := h.of_append
  have hqs : Legal qs := hbehind.of_append
  rw [h.parseFrom_eq, h'.parseFrom_eq, layOut_append, layOut_append, layOut, layOut]
  apply parseFragments_congr
  · apply parseFragment_congr
    apply parseInterpolation_congr
    · apply map_relocate_of_lexemes
      simp only [Token.ofBody, String.toList_ofList, map_lexeme_lexFrom, hlexemes]
    · rfl
    · rfl
  · rw [← hqs.parseFrom_eq, ← hqs.parseFrom_eq]
    exact parseFrom_agree (agree_const .dummy _ _ _)

/-- Sources that are parsed alike up to spans compile to templates that cannot be told apart, or
have the same fault, and compiling them does the same to the cache. -/
theorem CompiledTemplate.compile_congr {source source' : String} {move : Span → Span}
    (h : relocateOutcome move (List.map (Segment.relocate move)) (parseFrom 0 source.toList) =
      relocateOutcome move (List.map (Segment.relocate move)) (parseFrom 0 source'.toList))
    (cache : FormatCache) :
    (compile source' cache).2 = (compile source cache).2 ∧
      ((∃ t t', (compile source cache).1 = .ok t ∧ (compile source' cache).1 = .ok t' ∧
          t'.template.text = t.template.text ∧
          t'.referencedProperties = t.referencedProperties ∧
          ∀ context, t'.evaluate context = t.evaluate context) ∨
        ∃ e e', (compile source cache).1 = .error e ∧ (compile source' cache).1 = .error e' ∧
          e'.fault = e.fault) := by
  obtain ⟨segments, segments', hs, hs', hsame⟩ | ⟨e, e', he, he', hsame⟩ := relocateOutcome_cases h
  · have htemplate : (Template.mk segments).relocate move = (Template.mk segments').relocate move :=
      congrArg Template.mk hsame
    have htext := congrArg Template.text htemplate
    have hnames := congrArg Template.rootNames htemplate
    have hbuild := congrFun (congrArg Plan.build htemplate) cache
    rw [Template.text_relocate, Template.text_relocate] at htext
    rw [Template.rootNames_relocate, Template.rootNames_relocate] at hnames
    rw [Plan.build_relocate, Plan.build_relocate, Resolution.relocate, Resolution.relocate,
      Prod.mk.injEq] at hbuild
    simp only [compile, Template.parse_eq, hs, hs', Except.map, Resolution.map, Resolution.bind]
    cases hplan : Plan.build ⟨segments⟩ cache with
    | mk outcome after =>
        cases hplan' : Plan.build ⟨segments'⟩ cache with
        | mk outcome' after' =>
            rw [hplan, hplan'] at hbuild
            obtain ⟨hsamePlan, rfl⟩ := hbuild
            obtain ⟨plan, _, rfl, rfl, rfl⟩ | ⟨e, e', rfl, rfl, hfault⟩ :=
              relocateOutcome_cases hsamePlan
            · exact ⟨rfl, .inl ⟨_, _, rfl, rfl, htext.symm, hnames.symm, fun _ => rfl⟩⟩
            · exact ⟨rfl, .inr ⟨e, e', rfl, rfl, (congrArg CompileError.fault hfault).symm⟩⟩
  · have hfault := congrArg CompileError.fault hsame
    simp only [compile, Template.parse_eq, he, he', Except.map]
    exact ⟨rfl, .inr ⟨e, e', rfl, rfl, hfault.symm⟩⟩

/-- Gap characters put between two tokens of an interpolation in which every quote is closed, or
beside its braces. The source still has the same fragments but for that body, and the body has the
same lexemes. In every cache the source compiles to a template with the same canonical text, which
reads the same names and gives the same output, or it has the same fault; and it leaves the same
cache. -/
theorem CompiledTemplate.compile_insert_gaps {source : String} {before after : List Fragment}
    {body : String} {bodySpan span : Span}
    (hscan : (Scan.ofSource source).toExcept =
      .ok (before ++ .interpolation body bodySpan span :: after))
    (hquotes : ∀ t ∈ Token.ofBody body bodySpan.start, t.kind ≠ .openQuote)
    {pre post : List Char} (hbody : body.toList = pre ++ post) (hplace : Between 0 pre post)
    {gaps : List Char} (hgaps : ∀ c ∈ gaps, Text.isGap c = true) :
    let opening := before.flatMap Fragment.chars ++ '\x7b' :: '\x7b' :: pre
    let closing := post ++ '\x7d' :: '\x7d' :: after.flatMap Fragment.chars
    let changed := String.ofList (opening ++ gaps ++ closing)
    source.toList = opening ++ closing ∧
    (∃ changedBody changedBodySpan changedSpan behind,
      (Scan.ofSource changed).toExcept =
        .ok (before ++ .interpolation changedBody changedBodySpan changedSpan :: behind) ∧
      changedBody.toList = pre ++ gaps ++ post ∧
      behind.map Fragment.chars = after.map Fragment.chars ∧
      (Token.ofBody changedBody changedBodySpan.start).map (·.lexeme) =
        (Token.ofBody body bodySpan.start).map (·.lexeme)) ∧
    ∀ cache, (compile changed cache).2 = (compile source cache).2 ∧
      ((∃ t t', (compile source cache).1 = .ok t ∧ (compile changed cache).1 = .ok t' ∧
          t'.template.text = t.template.text ∧
          t'.referencedProperties = t.referencedProperties ∧
          ∀ context, t'.evaluate context = t.evaluate context) ∨
        ∃ e e', (compile source cache).1 = .error e ∧ (compile changed cache).1 = .error e' ∧
          e'.fault = e.fault) := by
  intro opening closing changed
  obtain ⟨pieces, hlegal, hsource, hlayOut⟩ := Scan.toExcept_eq_ok_iff.1 hscan
  obtain ⟨ps, qs, rfl, rfl, offset, rfl⟩ := exists_of_layOut hlayOut.symm
  rw [hbody] at hlegal hsource
  have hclosed : ∀ l ∈ lexemes (pre ++ post), l.kind ≠ .openQuote := by
    intro l hl
    rw [← hbody, ← map_lexeme_lexFrom bodySpan.start 0] at hl
    obtain ⟨t, ht, rfl⟩ := List.mem_map.1 hl
    exact hquotes t ht
  have hlexemes := lexemes_insert hgaps hplace hclosed
  have hbraces : Unpaired '\x7d' ((pre ++ (gaps ++ post)) ++ ['\x7d']) := by
    have hold := unpaired_concat.2 (hlegal.bodies (pre ++ post) (by simp))
    rw [List.append_assoc] at hold
    simpa only [List.append_assoc] using unpaired_insert hgaps hold
  have hchanged := hlegal.with_body hbraces
  have hspelled : spelled (ps ++ .interpolation (pre ++ (gaps ++ post)) :: qs) =
      changed.toList := by
    simp [changed, opening, closing, flatMap_chars_layOut]
  have hparse := hlegal.parseFrom_insert hchanged hlexemes
  rw [hspelled, hsource] at hparse
  refine ⟨?_, ?_, compile_congr hparse⟩
  · rw [← hsource]
    simp [opening, closing, flatMap_chars_layOut]
  · have hscanned := Scan.toExcept_eq_ok_iff.2 ⟨_, hchanged, hspelled, rfl⟩
    rw [layOut_append, layOut] at hscanned
    refine ⟨_, _, _, _, hscanned, ?_, ?_, ?_⟩
    · rw [String.toList_ofList, List.append_assoc]
    · rw [map_chars_layOut, map_chars_layOut]
    · simp only [Token.ofBody, String.toList_ofList, map_lexeme_lexFrom, hlexemes, hbody]

/-- A wide blank and a byte order mark in front of a pattern. -/
theorem CompiledTemplate.compile_insert_gaps_pattern :
    let source := "é\x7b\x7bp|number:',.1f'\x7d\x7d\x7d\x7b\x7bp\x7d\x7d"
    let changed := "é\x7b\x7bp|number:\u3000\ufeff',.1f'\x7d\x7d\x7d\x7b\x7bp\x7d\x7d"
    (compile changed .empty).2 = (compile source .empty).2 ∧
    ∃ t, (compile changed .empty).1 = .ok t ∧
      t.evaluate (.object [("p", .number (.ofNat 2))]) = "é2.0\x7d2" ∧
      t.template.text = "é\x7b\x7bp|number:\",.1f\"\x7d\x7d\x7d\x7b\x7bp\x7d\x7d" := by
  intro source changed
  have hscan : (Scan.ofSource source).toExcept = .ok ([.literal "é" ⟨0, 2⟩] ++
      .interpolation "p|number:',.1f'" ⟨4, 19⟩ ⟨2, 21⟩ ::
        [.literal "\x7d" ⟨21, 22⟩, .interpolation "p" ⟨24, 25⟩ ⟨22, 27⟩]) :=
    eq_ok_of_toOption (by decide +kernel)
  have hquotes : ∀ t ∈ Token.ofBody "p|number:',.1f'" 4, t.kind ≠ .openQuote := by
    decide +kernel
  have hbody : "p|number:',.1f'".toList = "p|number:".toList ++ "',.1f'".toList := by
    decide +kernel
  have hplace : Between 0 "p|number:".toList "',.1f'".toList := by decide +kernel
  have hgaps : ∀ c ∈ ['\u3000', '\uFEFF'], Text.isGap c = true := List.all_eq_true.1 (by decide)
  have hcompile := (compile_insert_gaps hscan hquotes hbody hplace hgaps).2.2 .empty
  have htext : (compile source .empty).1.toOption.map
      (fun t => (t.evaluate (.object [("p", .number (.ofNat 2))]), t.template.text)) =
        some ("é2.0\x7d2", "é\x7b\x7bp|number:\",.1f\"\x7d\x7d\x7d\x7b\x7bp\x7d\x7d") := by
    decide +kernel
  obtain ⟨t, ht, hread⟩ := Option.map_eq_some_iff.1 htext
  have hok := eq_ok_of_toOption ht
  rw [Prod.mk.injEq] at hread
  refine ⟨hcompile.1, ?_⟩
  obtain ⟨u, t', hu, ht', hsame, -, heval⟩ | ⟨e, -, he, -⟩ := hcompile.2
  · rw [hok] at hu
    cases hu
    exact ⟨t', ht', (heval _).trans hread.1, hsame.trans hread.2⟩
  · rw [hok] at he
    cases he

end TextTemplate
