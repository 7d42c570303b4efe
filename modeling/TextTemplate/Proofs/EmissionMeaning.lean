import TextTemplate.Proofs.EmissionAddresses
import TextTemplate.Proofs.EmittedLines

/-!
Emitted source does what the plan does. Executing the lines of a segment appends what its part
evaluates to, with every formatter taken from its position in the cache behind the emission.
-/
namespace TextTemplate.Emission
open FormatCache Resolution

theorem count?_of_le {n : Nat} (h : n ≤ Operation.maxArgument) :
    count? (toString n).toList = some n := by
  apply count?_toString
  exact Nat.lt_of_le_of_lt h (by decide)

theorem position?_of_natAbs_le {n : Int} (h : n.natAbs ≤ Operation.maxArgument) :
    position? (toString n).toList = some n := by
  apply position?_toString
  exact Nat.lt_of_le_of_lt h (by decide)

theorem stop?_stopText {stop : Option Int}
    (h : ∀ position ∈ stop, position.natAbs ≤ Operation.maxArgument) :
    stop? (stopText stop).toList = some stop := by
  cases stop with
  | none => rfl
  | some position =>
      have hread := position?_of_natAbs_le (h position rfl)
      have hbetween := between?_append "Some(" ")" (toString position).toList
      have htext : (stopText (some position)).toList =
          "Some(".toList ++ ((toString position).toList ++ ")".toList) := by
        simp [stopText]
      have hnone : (stopText (some position)).toList ≠ "None".toList := by
        simp [stopText]
      rw [stop?, if_neg hnone, htext, hbetween, Option.bind_some, hread]
      rfl

theorem side?_sideText (type : String) (side : Side) :
    side? type (sideText type side).toList = some side := by
  have htext : (sideText type side).toList =
      ("::stencil_eval::runtime::" ++ type ++ "::").toList ++ (sideName side).toList := by
    simp [sideText, library]
  rw [side?, htext, behind?_append]
  cases side <;> rfl

theorem between?_index (index : Nat) :
    (between? "&__formats[" "]" ("&__formats[" ++ toString index ++ "]").toList).bind natural? =
      some index := by
  rw [String.toList_append, String.toList_append, List.append_assoc, between?_append,
    Option.bind_some, natural?_toString]

/-- The call of a step denotes what the step does. -/
theorem function?_stepCall {formats : List Formatter} {step : Step Nat} {resolved : Step Formatter}
    (hd : dereference? formats step = some resolved) (hr : resolved.Resolved) :
    function? formats (stepCall step).1 ((stepCall step).2.map String.toList) =
      some resolved.apply := by
  cases step with
  | operation op =>
      cases hd
      cases op with
      | lower | upper | lowerLocale | upperLocale | trim | length => rfl
      | left n =>
          change (count? (toString n).toList).bind (fun n => some (Value.left n)) = _
          rw [count?_of_le hr]
          rfl
      | right n =>
          change (count? (toString n).toList).bind (fun n => some (Value.right n)) = _
          rw [count?_of_le hr]
          rfl
      | mid start n =>
          change (count? (toString start).toList).bind (fun start =>
            (count? (toString n).toList).bind fun n => some (Value.mid start n)) = _
          rw [count?_of_le hr.1, count?_of_le hr.2]
          rfl
      | slice start stop =>
          change (position? (toString start).toList).bind (fun start =>
            (stop? (stopText stop).toList).bind fun stop => some (Value.slice start stop)) = _
          rw [position?_of_natAbs_le hr.1, stop?_stopText hr.2]
          rfl
      | truncate width side =>
          change (count? (toString width).toList).bind (fun width =>
            (side? "TruncateSide" (sideText "TruncateSide" side).toList).bind fun side =>
              some (Value.truncate width side)) = _
          rw [count?_of_le hr, side?_sideText]
          rfl
      | pad width side =>
          change (count? (toString width).toList).bind (fun width =>
            (side? "PadSide" (sideText "PadSide" side).toList).bind fun side =>
              some (Value.pad width side)) = _
          rw [count?_of_le hr, side?_sideText]
          rfl
  | format index =>
      obtain ⟨f, hf, rfl⟩ := Option.map_eq_some_iff.1 hd
      change ((between? "&__formats[" "]" ("&__formats[" ++ toString index ++ "]").toList).bind
        natural?).bind (fun position => (formats[position]?).bind fun f => some f.apply) = _
      rw [between?_index, Option.bind_some, hf]
      rfl

section
variable (parameter : String) (formats : List Formatter) (context : Value)

/-- Where the instructions of lines lead. -/
def follow? (s : State) (lines : List Line) : Option State :=
  lines.foldlM (fun s line => step? formats context s line.statement.instruction) s

theorem follow?_cons (s : State) (line : Line) (lines : List Line) :
    follow? formats context s (line :: lines) =
      (step? formats context s line.statement.instruction).bind
        (follow? formats context · lines) := rfl

theorem follow?_append (s : State) (first rest : List Line) :
    follow? formats context s (first ++ rest) =
      (follow? formats context s first).bind (follow? formats context · rest) :=
  List.foldlM_append

theorem executeAll?_text {lines : List Line} (h : ∀ line ∈ lines, line.statement.Under parameter)
    (s : State) :
    executeAll? parameter formats context s (lines.map (·.text.toList)) =
      follow? formats context s lines := by
  induction lines generalizing s with
  | nil => rfl
  | cons line lines ih =>
      rw [List.forall_mem_cons] at h
      have hread := instruction?_text h.1
      rw [follow?_cons]
      change (execute? parameter formats context s line.text.toList).bind _ = _
      rw [execute?, hread, Option.bind_some]
      congr 1
      funext s
      exact ih h.2 s

variable {formats}

theorem follow?_steps {addressed : List (Step Nat)} {steps : List (Step Formatter)}
    (hd : addressed.map (dereference? formats) = steps.map some)
    (hr : ∀ step ∈ steps, step.Resolved) (out : List Char) (v : Value) :
    follow? formats context (.bound out v) (addressed.map fun step => ⟨2, .apply step⟩) =
      some (.bound out (Step.applyAll steps v)) := by
  induction addressed generalizing steps v with
  | nil =>
      cases steps with
      | nil => rfl
      | cons step steps => cases hd
  | cons step addressed ih =>
      cases steps with
      | nil => cases hd
      | cons resolved steps =>
          simp only [List.map_cons, List.cons.injEq] at hd
          rw [List.forall_mem_cons] at hr
          have hstep : step? formats context (.bound out v) (Statement.apply step).instruction =
              some (.bound out (resolved.apply v)) := by
            simp only [Statement.instruction, step?, function?_stepCall hd.1 hr.1, Option.map_some]
          rw [List.map_cons, follow?_cons, hstep, Option.bind_some, ih hd.2 hr.2]
          rfl

/-- The block of an interpolation appends the rendered value. -/
theorem follow?_interpolationLines {addressed : List (Step Nat)} {steps : List (Step Formatter)}
    (hd : addressed.map (dereference? formats) = steps.map some)
    (hr : ∀ step ∈ steps, step.Resolved) (names : List String) (out : List Char) :
    follow? formats context (.outer out) (interpolationLines parameter names addressed) =
      some (.outer (out ++ (Step.applyAll steps (context.lookup names)).chars)) := by
  have hsteps := follow?_steps context hd hr out (context.lookup names)
  rw [interpolationLines, List.cons_append, List.cons_append, follow?_cons]
  change (follow? formats context (.bound out (context.lookup names)) _) = _
  rw [follow?_append, hsteps]
  rfl

end

theorem under_interpolationLines (parameter : String) (path : Path) (steps : List (Step Nat)) :
    ∀ line ∈ interpolationLines parameter path.names steps, line.statement.Under parameter := by
  intro line hline
  simp only [interpolationLines, List.mem_append, List.mem_cons, List.mem_map, List.not_mem_nil,
    or_false] at hline
  rcases hline with (rfl | rfl | ⟨step, -, rfl⟩) | rfl | rfl
  · trivial
  · exact ⟨rfl, List.cons_ne_nil _ _⟩
  · trivial
  · trivial
  · trivial

/-- What the lines of segments do: the parts are those of every cache, and in every later state of
the cache the lines append what the parts evaluate to. -/
structure Realizes (parameter : String) (segments : List Segment) (after : FormatCache)
    (lines : List Line) (parts : List Part) : Prop where
  under : ∀ line ∈ lines, line.statement.Under parameter
  parts_eq : ∀ other, other.WellFormed → (traverse Part.ofSegment segments other).1 = .ok parts
  follow : ∀ later, Grown after later → ∀ context out,
    follow? later.formatters context (.outer out) lines =
      some (.outer (out ++ parts.flatMap (·.chars context)))

theorem follow_segmentLines {parameter : String} {segment : Segment} {cache after : FormatCache}
    {lines : List Line} (h : cache.WellFormed)
    (he : segmentLines parameter segment cache = (.ok lines, after)) :
    ∃ part, (∀ line ∈ lines, line.statement.Under parameter) ∧
      (Part.ofSegment segment cache).1 = .ok part ∧
      ∀ later, Grown after later → ∀ context out,
        follow? later.formatters context (.outer out) lines =
          some (.outer (out ++ part.chars context)) := by
  cases segment with
  | literal text span =>
      cases he
      refine ⟨.literal text, ?_, rfl, fun later hlater context out => rfl⟩
      rw [List.forall_mem_singleton]
      trivial
  | interpolation i =>
      obtain ⟨addressed, haddressed, rfl⟩ := map_eq_ok.1 he
      obtain ⟨steps, hsteps, hresolved, hd⟩ := dereference?_addressAll h haddressed
      refine ⟨.interpolation i.path.names steps, under_interpolationLines _ _ _, ?_, ?_⟩
      · obtain ⟨middle, hall⟩ := outcome_eq_ok_iff.1 hsteps
        exact outcome_eq_ok_iff.2 ⟨middle, map_eq_ok.2 ⟨steps, hall, rfl⟩⟩
      · intro later hlater context out
        exact follow?_interpolationLines parameter context (hd later hlater) hresolved _ out

theorem realizes_traverse {parameter : String} {segments : List Segment}
    {cache after : FormatCache} {inner : List (List Line)} (h : cache.WellFormed)
    (he : traverse (segmentLines parameter) segments cache = (.ok inner, after)) :
    ∃ parts, Realizes parameter segments after inner.flatten parts := by
  induction segments generalizing cache inner with
  | nil =>
      obtain ⟨rfl, rfl⟩ := traverse_nil_eq_ok.1 he
      exact ⟨[], by simp, fun _ _ => rfl, fun _ _ _ out => by simp [follow?]⟩
  | cons segment segments ih =>
      obtain ⟨lines, rest, middle, hlines, hrest, rfl⟩ := traverse_cons_eq_ok.1 he
      have hmiddle := ((segmentLines_lawful parameter segment).grown_of_eq h hlines).wellFormed
      have hafter := (traverse_lawful (segmentLines_lawful parameter) segments).grown_of_eq
        hmiddle hrest
      -- The cache grows behind the first segment, whose lines are followed in a later state of it.
      obtain ⟨part, hunder, hpart, hfollow⟩ := follow_segmentLines h hlines
      obtain ⟨parts, hparts⟩ := ih hmiddle hrest
      refine ⟨part :: parts, ?_, ?_, ?_⟩
      · intro line hline
        rw [List.flatten_cons, List.mem_append] at hline
        exact hline.elim (hunder line) (hparts.under line)
      · intro other hother
        have hfirst := (Part.ofSegment_stable segment _ _ hother h).trans hpart
        obtain ⟨next, hsegment⟩ := outcome_eq_ok_iff.1 hfirst
        have hnext := ((Part.ofSegment_lawful segment).grown_of_eq hother hsegment).wellFormed
        obtain ⟨last, htraverse⟩ := outcome_eq_ok_iff.1 (hparts.parts_eq next hnext)
        exact outcome_eq_ok_iff.2
          ⟨last, traverse_cons_eq_ok.2 ⟨part, parts, next, hsegment, htraverse, rfl⟩⟩
      · intro later hlater context out
        rw [List.flatten_cons, follow?_append, hfollow later (hafter.trans hlater),
          Option.bind_some, hparts.follow later hlater, List.flatMap_cons, List.append_assoc]

theorem newline_not_mem_parameter {parameter : String} (h : isParameter parameter) :
    '\n' ∉ parameter.toList := by
  intro hmem
  simp only [isParameter, Bool.and_eq_true] at h
  have hidentifier := h.1.1
  cases hcs : parameter.toList with
  | nil => simp [hcs] at hmem
  | cons c cs =>
      rw [hcs, isIdentifier, Bool.and_eq_true, List.all_eq_true] at hidentifier
      cases List.mem_cons.1 (hcs ▸ hmem) with
      | inl heq => exact absurd (heq ▸ hidentifier.1) (by decide)
      | inr hc => exact absurd (hidentifier.2 _ hc) (by decide)

theorem splitOn_sourceText {parameter : String} (hparameter : '\n' ∉ parameter.toList)
    {lines : List Line} (h : ∀ line ∈ lines, line.statement.Under parameter) (hne : lines ≠ []) :
    (sourceText lines).toList.splitOn '\n' = lines.map (·.text.toList) := by
  rw [sourceText, String.toList_intercalate, List.map_map]
  apply List.splitOn_intercalate
  · intro cs hcs
    obtain ⟨line, hline, rfl⟩ := List.mem_map.1 hcs
    have htext := newline_not_mem_text hparameter (h line hline)
    simp [Line.text, htext]
  · simpa using hne

theorem run?_blockLines {parameter : String} (hparameter : isParameter parameter) {t : Template}
    {after later : FormatCache} {inner : List (List Line)} {parts : List Part}
    (h : Realizes parameter t.segments after inner.flatten parts) (hlater : Grown after later)
    (context : Value) :
    run? parameter later.formatters context (sourceText (blockLines t inner)) =
      some ((Plan.mk parts).evaluate context) := by
  have hunder : ∀ line ∈ blockLines t inner, line.statement.Under parameter := by
    intro line hline
    simp only [blockLines, List.mem_append, List.mem_cons, List.not_mem_nil, or_false] at hline
    rcases hline with (rfl | rfl | hline) | rfl | rfl
    · trivial
    · trivial
    · exact h.under line hline
    · trivial
    · trivial
  have hfollow : follow? later.formatters context .start (blockLines t inner) =
      some (.finished (parts.flatMap (·.chars context))) := by
    rw [blockLines, List.cons_append, List.cons_append, follow?_cons]
    change follow? later.formatters context (.outer []) _ = _
    rw [follow?_append, h.follow later hlater]
    rfl
  have hsplit := splitOn_sourceText (newline_not_mem_parameter hparameter) hunder
    (by simp [blockLines])
  rw [run?, hsplit, executeAll?_text parameter later.formatters context hunder, hfollow]
  rfl

/-- Emitted source is executed as its template is evaluated: with the formatters that are in the
cache behind the emission it gives, in every context, the text that the plan of the template gives,
which is the same plan in every cache. -/
theorem run?_ofTemplate {t : Template} {parameter source : String} {collected : List String}
    {cache : FormatCache} (h : Reachable cache)
    (he : (ofTemplate t parameter collected cache).source = .ok source) :
    ∃ plan, (∀ other, Reachable other → (Plan.build t other).1 = .ok plan) ∧
      ∀ context, run? parameter (ofTemplate t parameter collected cache).cache.formatters context
        source = some (plan.evaluate context) := by
  cases hlines : lines t parameter cache with
  | mk outcome after =>
      cases outcome with
      | error e => simp [ofTemplate, hlines] at he
      | ok all =>
          simp only [ofTemplate, hlines, Except.ok.injEq] at he ⊢
          subst he
          rw [lines] at hlines
          split at hlines
          · rename_i hparameter
            obtain ⟨inner, hinner, rfl⟩ := map_eq_ok.1 hlines
            obtain ⟨parts, hparts⟩ := realizes_traverse h.wellFormed hinner
            have hafter := (traverse_lawful (segmentLines_lawful parameter) t.segments).grown_of_eq
              h.wellFormed hinner
            refine ⟨⟨parts⟩, fun other hother => ?_,
              run?_blockLines hparameter hparts (.refl hafter.wellFormed)⟩
            obtain ⟨last, htraverse⟩ :=
              outcome_eq_ok_iff.1 (hparts.parts_eq other hother.wellFormed)
            exact outcome_eq_ok_iff.2 ⟨last, map_eq_ok.2 ⟨parts, htraverse, rfl⟩⟩
          · cases hlines

/-- No source gives this template: its literal holds braces, and its names are not those of a
path. -/
def handBuilt : Template where
  segments :=
    [.literal "say \"\x7b\x7b\"\n" (.point 0),
     .interpolation
       { path := ⟨"unit price", ["\\n"], .point 0⟩
         filters :=
           [⟨.number, [.str ",.2f" (.point 0)], .point 0⟩,
            ⟨.slice, [.number (.ofInt (-5)) (.point 0)], .point 0⟩,
            ⟨.pad, [.number (.ofInt 7) (.point 0), .keyword "center" (.point 0)], .point 0⟩]
         span := .point 0 }]

theorem run?_handBuilt :
    let cache := (empty.getOrInsert .time "%Y").2
    let emission := ofTemplate handBuilt "obj" [] cache
    ∃ source, emission.source = .ok source ∧
      ∃ plan, (∀ other, Reachable other → (Plan.build handBuilt other).1 = .ok plan) ∧
        ∀ context, run? "obj" emission.cache.formatters context source =
          some (plan.evaluate context) := by
  intro cache emission
  have hsome : emission.source.toOption.isSome := by decide +kernel
  obtain ⟨source, hsource⟩ := Option.isSome_iff_exists.1 hsome
  have hok := eq_ok_of_toOption hsource
  exact ⟨source, hok, run?_ofTemplate (.getOrInsert .empty .time "%Y") hok⟩

end TextTemplate.Emission
