import TextTemplate.Proofs.CallRegistry
import TextTemplate.Proofs.ResolvedSegments
import TextTemplate.Proofs.TextSlices

/-!
Values that are not there. A path leads to nothing if one of its steps is missing or if what it ends
at is absent, and all filters but `length` pass on what is absent. So an interpolation of such a
path contributes nothing, or what the filters behind its first `length` make of zero, and the
segments around it contribute what they do without it.
-/
namespace TextTemplate
open FormatCache

namespace Value

/-- A path leads to nothing: one of its steps is missing, or what it ends at is absent. -/
inductive Absent : Value → List String → Prop
  | nullish {v : Value} (h : v.isNullish = true) : Absent v []
  | missing {v : Value} {key : String} (h : v.get? key = none) (keys : List String) :
      Absent v (key :: keys)
  | step {v w : Value} {key : String} {keys : List String} (h : v.get? key = some w)
      (rest : Absent w keys) : Absent v (key :: keys)

theorem isNullish_lookup_iff (v : Value) (keys : List String) :
    (v.lookup keys).isNullish = true ↔ v.Absent keys := by
  induction keys generalizing v with
  | nil =>
      constructor
      · exact .nullish
      · intro h
        cases h with
        | nullish h => exact h
  | cons key keys ih =>
      rw [lookup]
      cases hkey : v.get? key with
      | none => exact ⟨fun _ => .missing hkey keys, fun _ => rfl⟩
      | some w =>
          constructor
          · intro h
            exact .step hkey ((ih w).1 h)
          · intro h
            cases h with
            | missing h => cases hkey.symm.trans h
            | step h rest =>
                cases hkey.symm.trans h
                exact (ih w).2 rest

theorem text_of_isNullish {v : Value} (h : v.isNullish = true) : v.text = "" := by
  cases v <;> first | rfl | cases h

theorem length_of_isNullish {v : Value} (h : v.isNullish = true) : v.length = number .zero := by
  have hzero : Double.ofNat 0 = .zero := by decide +kernel
  cases v with
  | undefined | null => rw [length, chars, List.length_nil, hzero]
  | bool _ | number _ | str _ | date _ | list _ | object _ => cases h

end Value

theorem Operation.apply_of_isNullish {op : Operation} (hop : op ≠ .length) {v : Value}
    (h : v.isNullish = true) : op.apply v = v := by
  cases op with
  | length => exact absurd rfl hop
  | lower | upper | lowerLocale | upperLocale | trim | left _ | right _ | slice _ _
  | truncate _ _ | pad _ _ => exact Value.mapText_of_isNullish h _
  | mid start count => exact Value.mapText_of_isNullish h fun cs => (cs.drop start).take count

theorem Formatter.apply_of_isNullish (f : Formatter) {v : Value} (h : v.isNullish = true) :
    f.apply v = v := by
  cases v with
  | undefined | null => cases f <;> rfl
  | bool _ | number _ | str _ | date _ | list _ | object _ => cases h

namespace Step

theorem apply_of_isNullish {step : Step Formatter} (hstep : step.filter ≠ .length) {v : Value}
    (h : v.isNullish = true) : step.apply v = v := by
  cases step with
  | operation op =>
      refine op.apply_of_isNullish (fun hop => hstep ?_) h
      rw [hop]
      rfl
  | format f => exact f.apply_of_isNullish h

theorem apply_length {step : Step Formatter} (hstep : step.filter = .length) {v : Value}
    (h : v.isNullish = true) : step.apply v = .number .zero := by
  cases step with
  | operation op =>
      cases op <;> first | exact Value.length_of_isNullish h | cases hstep
  | format f => cases f <;> cases hstep

theorem applyAll_append (front rest : List (Step Formatter)) (v : Value) :
    applyAll (front ++ rest) v = applyAll rest (applyAll front v) :=
  List.foldl_append

/-- A pipeline without `length` passes on what is absent. -/
theorem applyAll_of_isNullish {calls : List FilterCall} {steps : List (Step Formatter)}
    (hsteps : calls.mapM fresh = .ok steps) (hcalls : ∀ call ∈ calls, call.filter ≠ .length)
    {v : Value} (h : v.isNullish = true) : applyAll steps v = v := by
  -- the value stays the same from call to call, so only the calls change in the induction
  induction calls generalizing steps with
  | nil =>
      cases hsteps
      rfl
  | cons call calls ih =>
      obtain ⟨step, rest, hstep, hrest, rfl⟩ := mapM_cons_eq_ok_iff.1 hsteps
      rw [List.forall_mem_cons] at hcalls
      have hfilter := filter_of_resolve wellFormed_empty hstep
      rw [applyAll, List.foldl_cons, apply_of_isNullish (hfilter ▸ hcalls.1) h]
      exact ih hrest hcalls.2

/-- The first `length` of a pipeline makes zero of what is absent. -/
theorem applyAll_length {earlier rest : List FilterCall} {call : FilterCall}
    {steps : List (Step Formatter)}
    (hsteps : (earlier ++ call :: rest).mapM fresh = .ok steps)
    (hearlier : ∀ other ∈ earlier, other.filter ≠ .length) (hcall : call.filter = .length) :
    ∃ behind, rest.mapM fresh = .ok behind ∧
      ∀ v : Value, v.isNullish = true → applyAll steps v = applyAll behind (.number .zero) := by
  obtain ⟨front, _, hfront, hrest, rfl⟩ := mapM_append_eq_ok_iff.1 hsteps
  obtain ⟨step, behind, hstep, hbehind, rfl⟩ := mapM_cons_eq_ok_iff.1 hrest
  have hfilter := filter_of_resolve wellFormed_empty hstep
  refine ⟨behind, hbehind, fun v h => ?_⟩
  rw [applyAll_append, applyAll_of_isNullish hfront hearlier h, applyAll, List.foldl_cons,
    apply_length (hfilter.trans hcall) h, applyAll]

end Step

theorem Plan.evaluate_append_cons (front later : List Part) (part : Part) (context : Value) :
    evaluate ⟨front ++ part :: later⟩ context = evaluate ⟨front⟩ context ++
      String.ofList (part.chars context) ++ evaluate ⟨later⟩ context := by
  simp only [evaluate, chars, List.flatMap_append, List.flatMap_cons, ← String.ofList_append,
    List.append_assoc]

namespace CompiledTemplate
open Value

/-- The text of a template is that of each interpolation between the texts of the segments around
it, which have the same plans without it. If the path of the interpolation leads to nothing, then
the interpolation contributes nothing, unless there is a `length` among its filters: what it
contributes then is what the filters behind the first one make of zero. -/
theorem evaluate_absent {source : String} {cache : FormatCache} (h : Reachable cache)
    {t : CompiledTemplate} (ht : (compile source cache).1 = .ok t) {front later : List Segment}
    {i : Interpolation} (hsegments : t.template.segments = front ++ .interpolation i :: later) :
    ∃ before steps after,
      (∀ other, Reachable other →
        (Plan.build ⟨front⟩ other).1 = .ok before ∧
        (Step.resolveAll i.filters other).1 = .ok steps ∧
        (Plan.build ⟨later⟩ other).1 = .ok after) ∧
      ∀ context : Value,
        let contribution := (Step.applyAll steps (context.lookup i.path.names)).text
        t.evaluate context = before.evaluate context ++ contribution ++ after.evaluate context ∧
        ((context.lookup i.path.names).isNullish = true ↔ context.Absent i.path.names) ∧
        (context.Absent i.path.names →
          ((∀ call ∈ i.filters, call.filter ≠ .length) → contribution = "") ∧
          ∀ earlier call rest, i.filters = earlier ++ call :: rest →
            (∀ other ∈ earlier, other.filter ≠ .length) → call.filter = .length →
            ∃ behind, (∀ other, Reachable other → (Step.resolveAll rest other).1 = .ok behind) ∧
              contribution = (Step.applyAll behind (.number .zero)).text) := by
  obtain ⟨segments, parts, -, hparts, rfl⟩ := (compile_outcome_eq_ok_iff h.wellFormed).1 ht
  obtain rfl : segments = front ++ .interpolation i :: later := hsegments
  obtain ⟨before, _, hbefore, hrest, rfl⟩ := mapM_append_eq_ok_iff.1 hparts
  obtain ⟨part, after, hpart, hafter, rfl⟩ := mapM_cons_eq_ok_iff.1 hrest
  obtain ⟨steps, hsteps, rfl⟩ := Part.fresh_interpolation_eq_ok_iff.1 hpart
  refine ⟨⟨before⟩, steps, ⟨after⟩, fun other hother => ⟨?_, ?_, ?_⟩, fun context => ?_⟩
  · rw [Plan.build_outcome ⟨front⟩ hother.wellFormed, hbefore]
    rfl
  · rw [Step.resolveAll_outcome i.filters hother.wellFormed, hsteps]
  · rw [Plan.build_outcome ⟨later⟩ hother.wellFormed, hafter]
    rfl
  · intro contribution
    refine ⟨Plan.evaluate_append_cons before after _ context, isNullish_lookup_iff context _,
      fun habsent => ?_⟩
    have hnullish := (isNullish_lookup_iff context _).2 habsent
    refine ⟨fun hfilters => ?_, fun earlier call rest hfilters hearlier hcall => ?_⟩
    · simp only [contribution, Step.applyAll_of_isNullish hsteps hfilters hnullish]
      exact text_of_isNullish hnullish
    · rw [hfilters] at hsteps
      obtain ⟨behind, hbehind, happly⟩ := Step.applyAll_length hsteps hearlier hcall
      refine ⟨behind, fun other hother => ?_, ?_⟩
      · rw [Step.resolveAll_outcome rest hother.wellFormed, hbehind]
      · simp only [contribution, happly _ hnullish]

/-- A text has no fields, so the first path leads to nothing, and what the second one leads to is
null; the length of nothing is formatted as a number is. -/
theorem evaluate_absent_length :
    let source :=
      "é\x7b\x7bx.0.k|pad:3\x7d\x7d-\x7b\x7by|trim|length|number:'.1f'|pad:5,left\x7d\x7d"
    let context := Value.object [("x", .list [.str "s"]), ("y", .null)]
    let trim : FilterCall := ⟨.trim, [], ⟨22, 26⟩⟩
    let length : FilterCall := ⟨.length, [], ⟨27, 33⟩⟩
    let behind : List FilterCall :=
      [⟨.number, [.str ".1f" ⟨41, 46⟩], ⟨34, 40⟩⟩,
        ⟨.pad, [.number (.ofNat 5) ⟨51, 52⟩, .keyword "left" ⟨53, 57⟩], ⟨47, 50⟩⟩]
    let first : Interpolation :=
      ⟨⟨"x", ["0", "k"], ⟨4, 9⟩⟩, [⟨.pad, [.number (.ofNat 3) ⟨14, 15⟩], ⟨10, 13⟩⟩], ⟨2, 17⟩⟩
    let second : Interpolation :=
      ⟨⟨"y", [], ⟨20, 21⟩⟩, trim :: length :: behind, ⟨18, 59⟩⟩
    let opening : List Segment := [.literal "é" ⟨0, 2⟩]
    let between : List Segment := [.literal "-" ⟨17, 18⟩]
    ∃ t, (compile source .empty).1 = .ok t ∧
      t.template.segments =
        opening ++ .interpolation first :: (between ++ [.interpolation second]) ∧
      t.evaluate context = "é-  0.0" ∧
      (context.Absent first.path.names ∧ ∃ before after : Plan,
        (Plan.build ⟨opening⟩ .empty).1 = .ok before ∧
        (Plan.build ⟨between ++ [.interpolation second]⟩ .empty).1 = .ok after ∧
        t.evaluate context = before.evaluate context ++ "" ++ after.evaluate context) ∧
      context.Absent second.path.names ∧ ∃ (before after : Plan) (steps : List (Step Formatter)),
        (Step.resolveAll behind .empty).1 = .ok steps ∧
        t.evaluate context = before.evaluate context ++
          (Step.applyAll steps (.number .zero)).text ++ after.evaluate context := by
  intro source context trim length behind first second opening between
  have hcompiled : (compile source .empty).1.toOption.map
      (fun t => (t.template.segments, t.evaluate context)) =
        some (opening ++ .interpolation first :: (between ++ [.interpolation second]),
          "é-  0.0") := by decide +kernel
  obtain ⟨t, ht, hread⟩ := Option.map_eq_some_iff.1 hcompiled
  obtain ⟨hsegments, hrendered⟩ := Prod.mk.inj hread
  have hok := eq_ok_of_toOption ht
  refine ⟨t, hok, hsegments, hrendered, ?_, ?_⟩
  · obtain ⟨before, _, after, hbuild, hevaluate⟩ := evaluate_absent .empty hok hsegments
    obtain ⟨hbefore, -, hafter⟩ := hbuild .empty .empty
    obtain ⟨htext, hiff, hsilent⟩ := hevaluate context
    have habsent := hiff.1 (by decide +kernel)
    refine ⟨habsent, before, after, hbefore, hafter, ?_⟩
    rw [htext, (hsilent habsent).1 (by decide)]
  · have hsplit : t.template.segments =
        (opening ++ .interpolation first :: between) ++ [.interpolation second] := hsegments
    obtain ⟨before, _, after, -, hevaluate⟩ := evaluate_absent .empty hok hsplit
    obtain ⟨htext, hiff, hsilent⟩ := hevaluate context
    have habsent := hiff.1 (by decide +kernel)
    obtain ⟨steps, hsteps, hcontribution⟩ :=
      (hsilent habsent).2 [trim] length behind rfl (by decide) rfl
    refine ⟨habsent, before, after, steps, hsteps .empty .empty, ?_⟩
    rw [htext, hcontribution]

end CompiledTemplate

end TextTemplate
