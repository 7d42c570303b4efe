import TextTemplate.Syntax.Parser

/-!
Relocation: the same tokens at other places. Parsing looks only at kinds and texts, so moving the
spans of the tokens moves the spans of the outcome, be it an interpolation or an error, and changes
nothing else.
-/
namespace TextTemplate

variable (move : Span → Span)

def Token.relocate (t : Token) : Token := { t with span := move t.span }

def Path.relocate (p : Path) : Path := { p with span := move p.span }

def Argument.relocate : Argument → Argument
  | .str value span => .str value (move span)
  | .number value span => .number value (move span)
  | .keyword value span => .keyword value (move span)

def FilterCall.relocate (f : FilterCall) : FilterCall :=
  ⟨f.filter, f.args.map (Argument.relocate move), move f.span⟩

def Interpolation.relocate (i : Interpolation) : Interpolation :=
  ⟨i.path.relocate move, i.filters.map (FilterCall.relocate move), move i.span⟩

def Segment.relocate : Segment → Segment
  | .literal text span => .literal text (move span)
  | .interpolation i => .interpolation (i.relocate move)

def Template.relocate (t : Template) : Template := ⟨t.segments.map (Segment.relocate move)⟩

def CompileError.relocate (e : CompileError) : CompileError := ⟨e.fault, move e.span⟩

/-- An outcome at its new place. -/
def relocateOutcome {α : Type} (f : α → α) : Except CompileError α → Except CompileError α
  | .ok a => .ok (f a)
  | .error e => .error (e.relocate move)

/-- What was read, and the tokens ahead, at their new places. -/
def relocateRead {α : Type} (f : α → α) : α × List Token → α × List Token :=
  Prod.map f (List.map (Token.relocate move))

theorem relocateOutcome_eq_ok_iff {α : Type} {move : Span → Span}
    {outcome : Except CompileError α} {a : α} :
    relocateOutcome move id outcome = .ok a ↔ outcome = .ok a := by
  cases outcome <;> simp [relocateOutcome]

/-- Outcomes that are moved to the same one are both results or both errors. -/
theorem relocateOutcome_cases {move move' : Span → Span} {α : Type} {f f' : α → α}
    {outcome outcome' : Except CompileError α}
    (h : relocateOutcome move f outcome = relocateOutcome move' f' outcome') :
    (∃ a a', outcome = .ok a ∧ outcome' = .ok a' ∧ f a = f' a') ∨
      ∃ e e', outcome = .error e ∧ outcome' = .error e' ∧ e.relocate move = e'.relocate move' := by
  cases outcome with
  | ok a =>
      cases outcome' with
      | ok a' => exact .inl ⟨a, a', rfl, rfl, Except.ok.inj h⟩
      | error e' => cases h
  | error e =>
      cases outcome' with
      | ok a' => cases h
      | error e' => exact .inr ⟨e, e', rfl, rfl, Except.error.inj h⟩

theorem Cursor.unexpected_relocate (expected : Expected) (ts : List Token) (finish : Span) :
    unexpected expected ⟨ts.map (Token.relocate move), move finish⟩ =
      (unexpected expected ⟨ts, finish⟩).relocate move := by
  cases ts with
  | nil => rfl
  | cons t ts =>
      obtain ⟨kind, text, span⟩ := t
      cases kind <;> rfl

namespace Syntax

theorem missingName_relocate (ts : List Token) (finish : Span) :
    missingName ⟨ts.map (Token.relocate move), move finish⟩ =
      (missingName ⟨ts, finish⟩).relocate move := by
  cases ts with
  | nil => rfl
  | cons t ts =>
      obtain ⟨kind, text, span⟩ := t
      cases kind <;> rfl

theorem path?_relocate (t : Token) :
    path? (t.relocate move) = (path? t).map (Path.relocate move) := by
  simp only [path?]
  by_cases h : t.kind = .bare ∧ (splitPoints t.text.toList).all isName = true
  · rw [if_pos h, if_pos (by exact h)]
    change Path.ofNames? ((splitPoints t.text.toList).map String.ofList) (move t.span) = _
    cases (splitPoints t.text.toList).map String.ofList <;> rfl
  · rw [if_neg h, if_neg (by exact h)]
    rfl

theorem parsePath_relocate (finish : Span) (ts : List Token) :
    parsePath (move finish) (ts.map (Token.relocate move)) =
      relocateOutcome move (relocateRead move (Path.relocate move)) (parsePath finish ts) := by
  cases ts with
  | nil => rfl
  | cons t ts =>
      have hunexpected := Cursor.unexpected_relocate move .propertyPath (t :: ts) finish
      rw [List.map_cons] at hunexpected ⊢
      rw [parsePath, parsePath, path?_relocate, hunexpected]
      by_cases h : t.kind = .bare ∨ t.kind = .quoted
      · rw [if_pos h, if_pos (by exact h)]
        cases path? t <;> rfl
      · rw [if_neg h, if_neg (by exact h)]
        rfl

theorem argument_relocate (filter : Filter) (t : Token) (finish : Span) :
    argument filter (t.relocate move) (move finish) =
      relocateOutcome move (Argument.relocate move) (argument filter t finish) := by
  have hunexpected := Cursor.unexpected_relocate move .filterArgument [t] finish
  obtain ⟨kind, text, span⟩ := t
  cases kind with
  | quoted => rfl
  | bare =>
      simp only [argument, Token.relocate, bareArgument]
      split
      · rfl
      · split <;> rfl
  | bar | colon | comma | openQuote => exact congrArg Except.error hunexpected

theorem parseArguments_relocate (finish : Span) (filter : Filter) (ts : List Token) :
    parseArguments (move finish) filter (ts.map (Token.relocate move)) =
      relocateOutcome move (relocateRead move (List.map (Argument.relocate move)))
        (parseArguments finish filter ts) := by
  fun_induction parseArguments finish filter ts with
  | case1 => rfl
  | case2 t ts e h => simp [parseArguments, argument_relocate, h, relocateOutcome]
  | case3 t arg h => simp [parseArguments, argument_relocate, h, relocateOutcome, relocateRead]
  | case4 t arg h separator rest hcomma e hrest ih =>
      rw [hrest] at ih
      have hkind : (separator.relocate move).kind = .comma := hcomma
      simp [parseArguments, argument_relocate, h, relocateOutcome, hkind, ih]
  | case5 t arg h separator rest hcomma args rest' hrest ih =>
      rw [hrest] at ih
      have hkind : (separator.relocate move).kind = .comma := hcomma
      simp [parseArguments, argument_relocate, h, relocateOutcome, relocateRead, hkind, ih]
  | case6 t arg h separator rest hcomma =>
      have hkind : (separator.relocate move).kind ≠ .comma := hcomma
      simp [parseArguments, argument_relocate, h, relocateOutcome, relocateRead, hkind]

theorem parseColonArguments_relocate (finish : Span) (filter : Filter) (ts : List Token) :
    parseColonArguments (move finish) filter (ts.map (Token.relocate move)) =
      relocateOutcome move (relocateRead move (List.map (Argument.relocate move)))
        (parseColonArguments finish filter ts) := by
  cases ts with
  | nil => rfl
  | cons t ts =>
      by_cases hcolon : t.kind = .colon
      · have hkind : (t.relocate move).kind = .colon := hcolon
        simp only [List.map_cons, parseColonArguments, hkind, hcolon, if_true]
        exact parseArguments_relocate move finish filter ts
      · have hkind : (t.relocate move).kind ≠ .colon := hcolon
        simp [parseColonArguments, hkind, hcolon, relocateOutcome, relocateRead]

theorem endsCall_relocate (ts : List Token) :
    endsCall (ts.map (Token.relocate move)) = endsCall ts := by
  cases ts <;> rfl

theorem parseCall_relocate (finish : Span) (ts : List Token) :
    parseCall (move finish) (ts.map (Token.relocate move)) =
      relocateOutcome move (relocateRead move (FilterCall.relocate move))
        (parseCall finish ts) := by
  cases ts with
  | nil => rfl
  | cons t ts =>
      have hmissing := missingName_relocate move (t :: ts) finish
      rw [List.map_cons] at hmissing ⊢
      rw [parseCall, parseCall, hmissing]
      by_cases h : t.kind = .bare
      · rw [if_pos h, if_pos (by exact h)]
        rw [show (t.relocate move).text = t.text from rfl]
        cases Filter.ofName? t.text with
        | none => rfl
        | some filter =>
            simp only [parseColonArguments_relocate]
            cases parseColonArguments finish filter ts with
            | error e => rfl
            | ok result =>
                obtain ⟨args, rest⟩ := result
                simp only [relocateOutcome, relocateRead, Prod.map_apply, endsCall_relocate,
                  Cursor.unexpected_relocate]
                cases endsCall rest <;> rfl
      · rw [if_neg h, if_neg (by exact h)]
        rfl

theorem parseCalls_cons (finish : Span) (t : Token) (ts : List Token) :
    parseCalls finish (t :: ts) =
      if t.kind = .bar then
        match parseCall finish ts with
        | .error e => .error e
        | .ok (call, rest) => (parseCalls finish rest).map (call :: ·)
      else .error (Cursor.unexpected .barOrEnd ⟨t :: ts, finish⟩) := by
  rw [parseCalls]
  by_cases h : t.kind = .bar
  · rw [if_pos h, if_pos h]
    split
    · rename_i hcall
      rw [hcall]
    · rename_i rest hcall
      simp only [hcall]
      cases parseCalls finish rest <;> rfl
  · rw [if_neg h, if_neg h]

theorem parseCalls_relocate (finish : Span) (ts : List Token) :
    parseCalls (move finish) (ts.map (Token.relocate move)) =
      relocateOutcome move (List.map (FilterCall.relocate move)) (parseCalls finish ts) := by
  -- A call may leave fewer tokens ahead than it was given, so the induction is that of the parser.
  fun_induction parseCalls finish ts with
  | case1 => simp [parseCalls, relocateOutcome]
  | case2 t rest hbar e hcall =>
      rw [List.map_cons, parseCalls_cons, if_pos (by exact hbar), parseCall_relocate, hcall]
      rfl
  | case3 t rest hbar call rest' hcall _ e hcalls ih =>
      rw [List.map_cons, parseCalls_cons, if_pos (by exact hbar), parseCall_relocate, hcall]
      simp only [relocateOutcome, relocateRead, Prod.map_apply]
      rw [ih, hcalls]
      rfl
  | case4 t rest hbar call rest' hcall _ calls hcalls ih =>
      rw [List.map_cons, parseCalls_cons, if_pos (by exact hbar), parseCall_relocate, hcall]
      simp only [relocateOutcome, relocateRead, Prod.map_apply]
      rw [ih, hcalls]
      rfl
  | case5 t rest hbar =>
      rw [List.map_cons, parseCalls_cons, if_neg (by exact hbar), ← List.map_cons,
        Cursor.unexpected_relocate]
      rfl

/-- The interpolation that tokens write, if there is one. -/
def parseTokens (finish span : Span) : List Token → Except CompileError Interpolation
  | [] => .error ⟨.emptyInterpolation, span⟩
  | t :: ts =>
    match parsePath finish (t :: ts) with
    | .error e => .error e
    | .ok (path, rest) => (parseCalls finish rest).map fun filters => ⟨path, filters, span⟩

theorem parseInterpolation_eq (body : String) (bodySpan span : Span) :
    parseInterpolation body bodySpan span =
      parseTokens (.point bodySpan.stop) span (Token.ofBody body bodySpan.start) := by
  rw [parseInterpolation]
  cases Token.ofBody body bodySpan.start with
  | nil => rfl
  | cons t ts =>
      simp only [parseTokens]
      cases parsePath (.point bodySpan.stop) (t :: ts) with
      | error e => rfl
      | ok result =>
          simp only
          cases parseCalls (.point bodySpan.stop) result.2 <;> rfl

theorem parseTokens_relocate (finish span : Span) (ts : List Token) :
    parseTokens (move finish) (move span) (ts.map (Token.relocate move)) =
      relocateOutcome move (Interpolation.relocate move) (parseTokens finish span ts) := by
  cases ts with
  | nil => rfl
  | cons t ts =>
      simp only [List.map_cons, parseTokens]
      rw [← List.map_cons, parsePath_relocate]
      cases parsePath finish (t :: ts) with
      | error e => rfl
      | ok result =>
          simp only [relocateOutcome, relocateRead, Prod.map_fst, Prod.map_snd]
          rw [parseCalls_relocate]
          cases parseCalls finish result.2 <;> rfl

/-- Bodies whose tokens, ends and braces are moved to the same places are parsed alike. -/
theorem parseInterpolation_congr {move move' : Span → Span} {body body' : String}
    {bodySpan span bodySpan' span' : Span}
    (htokens : (Token.ofBody body bodySpan.start).map (Token.relocate move) =
      (Token.ofBody body' bodySpan'.start).map (Token.relocate move'))
    (hfinish : move (.point bodySpan.stop) = move' (.point bodySpan'.stop))
    (hspan : move span = move' span') :
    relocateOutcome move (Interpolation.relocate move) (parseInterpolation body bodySpan span) =
      relocateOutcome move' (Interpolation.relocate move')
        (parseInterpolation body' bodySpan' span') := by
  rw [parseInterpolation_eq, parseInterpolation_eq, ← parseTokens_relocate, htokens, hfinish,
    hspan, parseTokens_relocate]

end Syntax
end TextTemplate
