import TextTemplate.Proofs.CacheGrowth
import TextTemplate.Proofs.InterpolationGrammar
import TextTemplate.Proofs.OperationBounds
import TextTemplate.Proofs.Relocation

/-!
What errors are reported at. A table says for every fault what the text at its place has to be, and
each parser, and the resolution of calls behind them, reports its errors at a token or at the end of
the body where the table holds.
-/
namespace TextTemplate
open Token Syntax

/-- What a fault says about the place it is reported at and the text there. The tokens are those of
a body and `finish` is the place behind it; `failing` is the call that cannot be resolved, if the
body can be parsed. -/
def Fault.Marks (tokens : List Token) (finish : Span) (failing : Option FilterCall) (place : Span)
    (text : String) : Fault → Prop
  | .emptyInterpolation => ∃ gaps : String, (∀ c ∈ gaps.toList, Text.isGap c = true) ∧
      text = "\x7b\x7b" ++ gaps ++ "\x7d\x7d"
  | .invalidPath reported | .unknownFilter reported | .unquotedPattern _ reported => text = reported
  | .missingFilterName => (∃ t ∈ tokens, t.span = place ∧ t.text = text ∧ t.kind ≠ .bare) ∨
      place = finish ∧ text = ""
  | .unterminatedQuote => ∃ quote ∈ text.toList.head?, isQuote quote = true
  | .unexpectedToken found _ =>
      if found = "end of interpolation" then place = finish ∧ text = "" else text = found
  | .argumentCount filter .. => text = filter.name
  | .invalidArgument filter _ => ∃ call ∈ failing, call.filter = filter ∧ ∃ arg ∈ call.args,
      ∃ t ∈ tokens, t.WritesArgument filter arg ∧ t.span = place ∧ t.text = text
  | .invalidPattern _ pattern _ => ∃ quote, isQuote quote = true ∧
      text.toList = quote :: pattern.toList ++ [quote]
  | .unterminatedInterpolation | .invalidParameter _ => False

/-- The places inside an interpolation with their texts: its tokens, and the end of its body. -/
inductive PlaceIn (tokens : List Token) (finish : Span) : Span → String → Prop
  | token {t : Token} (h : t ∈ tokens) : PlaceIn tokens finish t.span t.text
  | finish : PlaceIn tokens finish finish ""

/-- The error is reported at a place inside the interpolation, and its fault is true there. -/
def CompileError.Fits (tokens : List Token) (finish : Span) (failing : Option FilterCall)
    (e : CompileError) : Prop :=
  ∃ text, PlaceIn tokens finish e.span text ∧ e.fault.Marks tokens finish failing e.span text

theorem Token.Shaped.text_ne_end {t : Token} (h : t.Shaped) (hkind : t.kind ≠ .openQuote) :
    t.text ≠ "end of interpolation" := by
  intro htext
  rw [Shaped, htext] at h
  generalize t.kind = kind at h hkind
  cases kind with
  | bar | colon | comma =>
      obtain ⟨c, -, hchars⟩ := h
      have hlength := congrArg List.length hchars
      simp at hlength
  | quoted =>
      obtain ⟨quote, value, hquote, -, hchars⟩ := h
      have hhead := congrArg List.head? hchars
      simp at hhead
      subst hhead
      cases hquote
  | bare => exact absurd (h.2 ' ' (by decide)) (by decide)
  | openQuote => exact hkind rfl

theorem Cursor.unexpected_nil (expected : Expected) (finish : Span) :
    unexpected expected ⟨[], finish⟩ =
      ⟨.unexpectedToken "end of interpolation" expected, finish⟩ := rfl

theorem Cursor.unexpected_cons (expected : Expected) (t : Token) (ts : List Token)
    (finish : Span) :
    unexpected expected ⟨t :: ts, finish⟩ =
      if t.kind = .openQuote then ⟨.unterminatedQuote, t.span⟩
      else ⟨.unexpectedToken t.text expected, t.span⟩ := by
  simp [unexpected, check, current?, span]

theorem Syntax.missingName_cons (t : Token) (ts : List Token) (finish : Span) :
    missingName ⟨t :: ts, finish⟩ =
      if t.kind = .openQuote then ⟨.unterminatedQuote, t.span⟩
      else ⟨.missingFilterName, t.span⟩ := by
  simp [missingName, Cursor.check, Cursor.current?, Cursor.span]

/-! The parsers below are given tokens of one body. -/
section
variable {tokens : List Token} {finish : Span}

theorem fits_token {failing : Option FilterCall} {t : Token} (h : t ∈ tokens) {fault : Fault}
    (hmarks : fault.Marks tokens finish failing t.span t.text) :
    CompileError.Fits tokens finish failing ⟨fault, t.span⟩ :=
  ⟨t.text, .token h, hmarks⟩

variable (hshaped : ∀ t ∈ tokens, t.Shaped)
include hshaped

theorem fits_openQuote {t : Token} (h : t ∈ tokens) (hkind : t.kind = .openQuote) :
    CompileError.Fits tokens finish none ⟨.unterminatedQuote, t.span⟩ := by
  obtain ⟨quote, rest, hquote, -, hchars⟩ : Shape .openQuote t.text.toList := hkind ▸ hshaped t h
  refine fits_token h ⟨quote, ?_, hquote⟩
  rw [hchars]
  rfl

theorem unexpected_fits (expected : Expected) {ts : List Token} (hts : ts ⊆ tokens) :
    (Cursor.unexpected expected ⟨ts, finish⟩).Fits tokens finish none := by
  cases ts with
  | nil =>
      rw [Cursor.unexpected_nil]
      exact ⟨"", .finish, by simp [Fault.Marks]⟩
  | cons t ts =>
      have ht := hts List.mem_cons_self
      rw [Cursor.unexpected_cons]
      split
      · rename_i hkind
        exact fits_openQuote hshaped ht hkind
      · rename_i hkind
        refine fits_token ht ?_
        rw [Fault.Marks, if_neg ((hshaped t ht).text_ne_end hkind)]

theorem missingName_fits {ts : List Token} (hts : ts ⊆ tokens)
    (hname : ∀ t ∈ ts.head?, t.kind ≠ .bare) :
    (missingName ⟨ts, finish⟩).Fits tokens finish none := by
  cases ts with
  | nil => exact ⟨"", .finish, .inr ⟨rfl, rfl⟩⟩
  | cons t ts =>
      have ht := hts List.mem_cons_self
      rw [missingName_cons]
      split
      · rename_i hkind
        exact fits_openQuote hshaped ht hkind
      · exact fits_token ht (.inl ⟨t, ht, rfl, rfl, hname t rfl⟩)

theorem parsePath_fits {ts : List Token} (hts : ts ⊆ tokens) {e : CompileError}
    (h : parsePath finish ts = .error e) : e.Fits tokens finish none := by
  cases ts with
  | nil =>
      cases h
      exact unexpected_fits hshaped .propertyPath hts
  | cons t ts =>
      rw [parsePath] at h
      split at h
      · split at h <;> cases h
        exact fits_token (hts List.mem_cons_self) rfl
      · cases h
        exact unexpected_fits hshaped .propertyPath hts

theorem argument_fits {filter : Filter} {t : Token} (ht : t ∈ tokens) {e : CompileError}
    (h : argument filter t finish = .error e) : e.Fits tokens finish none := by
  rw [argument] at h
  split at h
  · cases h
  · split at h <;> cases h
    exact fits_token ht rfl
  · cases h
    exact unexpected_fits hshaped .filterArgument (by simpa using ht)

theorem parseArguments_fits {filter : Filter} {ts : List Token} (hts : ts ⊆ tokens)
    {e : CompileError} (h : parseArguments finish filter ts = .error e) :
    e.Fits tokens finish none := by
  fun_induction parseArguments finish filter ts with
  | case1 =>
      cases h
      exact unexpected_fits hshaped .filterArgument hts
  | case2 t ts e' harg =>
      cases h
      exact argument_fits hshaped (hts List.mem_cons_self) harg
  | case3 | case5 | case6 => cases h
  | case4 t arg harg separator rest hcomma e' hrest ih =>
      cases h
      rw [List.cons_subset, List.cons_subset] at hts
      exact ih hts.2.2 hrest

theorem parseColonArguments_fits {filter : Filter} {ts : List Token} (hts : ts ⊆ tokens)
    {e : CompileError} (h : parseColonArguments finish filter ts = .error e) :
    e.Fits tokens finish none := by
  cases ts with
  | nil => cases h
  | cons t ts =>
      rw [List.cons_subset] at hts
      rw [parseColonArguments] at h
      split at h
      · exact parseArguments_fits hshaped hts.2 h
      · cases h

theorem parseColonArguments_subset {filter : Filter} {ts rest : List Token} (hts : ts ⊆ tokens)
    {args : List Argument} (h : parseColonArguments finish filter ts = .ok (args, rest)) :
    rest ⊆ tokens := by
  obtain ⟨-, rfl⟩ | ⟨separator, front, -, rfl, -⟩ :=
    parseColonArguments_cases (fun t ht => hshaped t (hts ht)) h
  · exact hts
  · rw [List.cons_subset, List.append_subset] at hts
    exact hts.2.2

theorem parseCall_fits {ts : List Token} (hts : ts ⊆ tokens) {e : CompileError}
    (h : parseCall finish ts = .error e) : e.Fits tokens finish none := by
  cases ts with
  | nil =>
      cases h
      exact missingName_fits hshaped hts (by simp)
  | cons t ts =>
      have hrest : ts ⊆ tokens := (List.cons_subset.1 hts).2
      rw [parseCall] at h
      split at h
      · split at h
        · cases h
          exact fits_token (hts List.mem_cons_self) rfl
        · split at h
          · rename_i hargs
            cases h
            exact parseColonArguments_fits hshaped hrest hargs
          · rename_i hargs
            split at h <;> cases h
            exact unexpected_fits hshaped .commaBarOrEnd
              (parseColonArguments_subset hshaped hrest hargs)
      · rename_i hkind
        cases h
        exact missingName_fits hshaped hts (by simpa using hkind)

theorem parseCalls_fits {ts : List Token} (hts : ts ⊆ tokens) {e : CompileError}
    (h : parseCalls finish ts = .error e) : e.Fits tokens finish none := by
  fun_induction parseCalls finish ts with
  | case1 | case4 => cases h
  | case2 t rest hbar e' hcall =>
      cases h
      exact parseCall_fits hshaped (List.cons_subset.1 hts).2 hcall
  | case3 t rest hbar call rest' hcall _ e' hcalls ih =>
      cases h
      have hrest : rest ⊆ tokens := (List.cons_subset.1 hts).2
      obtain ⟨front, rfl, -⟩ := writeCall_of_parse (fun t ht => hshaped t (hrest ht)) hcall
      exact ih (List.append_subset.1 hrest).2 hcalls
  | case5 t rest hbar =>
      cases h
      exact unexpected_fits hshaped .barOrEnd hts

/-- An interpolation that cannot be parsed is empty, or the error is at one of its places. -/
theorem parseTokens_fits {span : Span} {e : CompileError}
    (h : parseTokens finish span tokens = .error e) :
    (tokens = [] ∧ e = ⟨.emptyInterpolation, span⟩) ∨ e.Fits tokens finish none := by
  cases tokens with
  | nil =>
      cases h
      exact .inl ⟨rfl, rfl⟩
  | cons t ts =>
      refine .inr ?_
      rw [parseTokens] at h
      split at h
      · rename_i hpath
        cases h
        exact parsePath_fits hshaped (List.Subset.refl _) hpath
      · rename_i path rest hpath
        obtain ⟨t', heq, -⟩ := parsePath_eq_ok_iff.1 hpath
        cases heq
        cases hcalls : parseCalls finish ts with
        | error e' =>
            rw [hcalls] at h
            cases h
            exact parseCalls_fits hshaped (List.subset_cons_self t ts) hcalls
        | ok calls =>
            rw [hcalls] at h
            cases h

end

namespace Operation

/-- An error of decoding is about one of these arguments. -/
def Blames {α : Type} (filter : Filter) (args : List Argument) (outcome : Except CompileError α) :
    Prop :=
  ∀ e, outcome = .error e → ∃ arg ∈ args, ∃ reason, e = ⟨.invalidArgument filter reason, arg.span⟩

section
variable {α β : Type} {filter : Filter} {args : List Argument}

theorem blames_ok (a : α) : Blames filter args (.ok a) := fun _ h => nomatch h

theorem blames_invalid {arg : Argument} (h : arg ∈ args) (reason : String) :
    Blames filter args (invalid filter arg reason : Except CompileError α) := by
  intro e he
  cases he
  exact ⟨arg, h, reason, rfl⟩

theorem Blames.bind {outcome : Except CompileError α} {f : α → Except CompileError β}
    (h : Blames filter args outcome) (hf : ∀ a, Blames filter args (f a)) :
    Blames filter args (outcome >>= f) := by
  intro e he
  cases outcome with
  | error e' =>
      obtain rfl : e' = e := Except.error.inj he
      exact h e' rfl
  | ok a => exact hf a e he

theorem position_blames {arg : Argument} (h : arg ∈ args) :
    Blames filter args (position filter arg) := by
  cases arg with
  | str value span | keyword value span => exact blames_invalid h _
  | number x span =>
      cases x with
      | nan | infinite _ => exact blames_invalid h _
      | finite negative m =>
          simp only [position]
          split
          · exact blames_invalid h _
          · split
            · exact blames_invalid h _
            · exact blames_ok _

theorem count_blames {arg : Argument} (h : arg ∈ args) : Blames filter args (count filter arg) := by
  intro e he
  rw [count] at he
  split at he
  · rename_i hposition
    cases he
    exact position_blames h e hposition
  · split at he
    · exact blames_invalid h _ e he
    · cases he

theorem direction_blames {arg : Argument} (h : arg ∈ args) :
    Blames filter args (direction filter arg) := by
  rw [direction]
  split
  · exact blames_ok _
  · exact blames_invalid h _

end

theorem ofCall_error {call : FilterCall} {e : CompileError} (h : ofCall call = .error e) :
    (∃ least most, e = ⟨.argumentCount call.filter least most call.args.length, call.span⟩) ∨
      ∃ arg ∈ call.args, ∃ reason, e = ⟨.invalidArgument call.filter reason, arg.span⟩ := by
  rw [ofCall] at h
  split at h
  case h_7 hfilter hargs | h_8 hfilter hargs | h_12 hfilter hargs | h_14 hfilter hargs =>
      rw [hfilter, hargs]
      exact .inr ((count_blames (by simp)).bind (fun _ => blames_ok _) e h)
  case h_10 hfilter hargs =>
      rw [hfilter, hargs]
      exact .inr ((position_blames (by simp)).bind (fun _ => blames_ok _) e h)
  case h_9 hfilter hargs =>
      rw [hfilter, hargs]
      refine .inr ((count_blames (by simp)).bind (fun _ => ?_) e h)
      exact (count_blames (by simp)).bind fun _ => blames_ok _
  case h_11 hfilter hargs =>
      rw [hfilter, hargs]
      refine .inr ((position_blames (by simp)).bind (fun _ => ?_) e h)
      exact (position_blames (by simp)).bind fun _ => blames_ok _
  case h_13 hfilter hargs | h_15 hfilter hargs =>
      rw [hfilter, hargs]
      refine .inr ((count_blames (by simp)).bind (fun _ => ?_) e h)
      exact (direction_blames (by simp)).bind fun _ => blames_ok _
  case h_16 =>
      cases h
      exact .inl ⟨_, _, rfl⟩
  all_goals cases h

end Operation

theorem Formatter.fault_of_parse {family : Family} {pattern : String} {e : FormatError}
    (h : parse family pattern = .error e) :
    e.fault = .invalidPattern family pattern e.reason := by
  cases family with
  | number =>
      simp only [parse] at h
      split at h <;> cases h
      rfl
  | time =>
      simp only [parse] at h
      split at h <;> cases h
      rfl

namespace Step

theorem resolveFormat_error {filter : Filter} {family : Family} {pattern : Argument}
    {e : CompileError} {cache : FormatCache} (h : cache.WellFormed)
    (he : (resolveFormat filter family pattern cache).1 = .error e) :
    (∃ reason, e = ⟨.invalidArgument filter reason, pattern.span⟩) ∨
      ∃ text reason, pattern = .str text pattern.span ∧
        e = ⟨.invalidPattern family text reason, pattern.span⟩ := by
  cases pattern with
  | number x span | keyword value span =>
      cases he
      exact .inl ⟨_, rfl⟩
  | str text span =>
      have houtcome := Resolution.formatter_outcome family text span h
        fun parsed => (format parsed : Step Formatter)
      rw [resolveFormat] at he
      rw [he] at houtcome
      cases hparse : Formatter.parse family text with
      | ok parsed =>
          rw [hparse] at houtcome
          cases houtcome
      | error f =>
          rw [hparse] at houtcome
          cases houtcome
          exact .inr ⟨text, f.reason, rfl, by rw [Formatter.fault_of_parse hparse]; rfl⟩

/-- The error of a call is about the number of its arguments, about one of them, or about the
pattern in one. -/
theorem resolve_error_cases {call : FilterCall} {e : CompileError} {cache : FormatCache}
    (h : cache.WellFormed) (he : (resolve call cache).1 = .error e) :
    (∃ least most, e = ⟨.argumentCount call.filter least most call.args.length, call.span⟩) ∨
      (∃ arg ∈ call.args, ∃ reason, e = ⟨.invalidArgument call.filter reason, arg.span⟩) ∨
      ∃ text span family reason, .str text span ∈ call.args ∧
        e = ⟨.invalidPattern family text reason, span⟩ := by
  obtain ⟨family, pattern, -, hargs, heq⟩ | heq := resolve_eq call
  · have hmem : pattern ∈ call.args := by simp [hargs]
    rw [heq] at he
    obtain ⟨reason, rfl⟩ | ⟨text, reason, hpattern, rfl⟩ := resolveFormat_error h he
    · exact .inr (.inl ⟨pattern, hmem, reason, rfl⟩)
    · exact .inr (.inr ⟨text, pattern.span, family, reason, hpattern ▸ hmem, rfl⟩)
  · rw [heq] at he
    cases hcall : Operation.ofCall call with
    | ok op => simp [Resolution.ofExcept, hcall, Except.map] at he
    | error e' =>
        obtain rfl : e' = e := by simpa [Resolution.ofExcept, hcall, Except.map] using he
        obtain hcount | hargument := Operation.ofCall_error hcall
        · exact .inl hcount
        · exact .inr (.inl hargument)

end Step

namespace Token

theorem WritesArgument.span_eq {filter : Filter} {t : Token} {arg : Argument}
    (h : t.WritesArgument filter arg) : arg.span = t.span := by
  cases h <;> rfl

/-- The token of a quoted argument has a quote on either side of it. -/
theorem WritesArgument.quoted {filter : Filter} {t : Token} {text : String} {span : Span}
    (h : t.WritesArgument filter (.str text span)) (ht : t.Shaped) :
    ∃ quote, isQuote quote = true ∧ t.text.toList = quote :: text.toList ++ [quote] := by
  cases h with
  | @str hkind quote value htext =>
      obtain ⟨quote', value', hquote, -, htext'⟩ : Shape .quoted t.text.toList := hkind ▸ ht
      have hhead := congrArg List.head? (htext.symm.trans htext')
      simp only [List.cons_append, List.head?_cons, Option.some.injEq] at hhead
      subst hhead
      exact ⟨quote, hquote, by rw [htext, String.toList_ofList]⟩

theorem WriteArguments.exists_token {filter : Filter} {ts : List Token} {args : List Argument}
    (h : WriteArguments filter ts args) {arg : Argument} (harg : arg ∈ args) :
    ∃ t ∈ ts, t.WritesArgument filter arg := by
  induction h with
  | @single t arg' h =>
      obtain rfl := List.mem_singleton.1 harg
      exact ⟨t, List.mem_singleton_self t, h⟩
  | @cons t separator arg' ts args h _ _ ih =>
      obtain rfl | harg := List.mem_cons.1 harg
      · exact ⟨t, List.mem_cons_self, h⟩
      · obtain ⟨t', ht', hwrites⟩ := ih harg
        exact ⟨t', by simp [ht'], hwrites⟩

/-- The tokens of a call are its name and those of its arguments. -/
theorem WriteCall.exists_tokens {ts : List Token} {call : FilterCall} (h : WriteCall ts call) :
    (∃ t ∈ ts, t.span = call.span ∧ t.text = call.filter.name) ∧
      ∀ arg ∈ call.args, ∃ t ∈ ts, t.WritesArgument call.filter arg := by
  cases h with
  | @name t filter _ hname => exact ⟨⟨t, List.mem_cons_self, rfl, hname⟩, by simp⟩
  | @arguments t separator filter ts args _ hname _ hargs =>
      refine ⟨⟨t, List.mem_cons_self, rfl, hname⟩, fun arg harg => ?_⟩
      obtain ⟨t', ht', hwrites⟩ := hargs.exists_token harg
      exact ⟨t', by simp [ht'], hwrites⟩

theorem WriteCalls.exists_tokens {ts : List Token} {calls : List FilterCall}
    (h : WriteCalls ts calls) {call : FilterCall} (hcall : call ∈ calls) :
    ∃ us, us ⊆ ts ∧ WriteCall us call := by
  induction h with
  | nil => cases hcall
  | @cons separator ts us first calls _ hfirst _ ih =>
      obtain rfl | hcall := List.mem_cons.1 hcall
      · exact ⟨ts, fun t ht => by simp [ht], hfirst⟩
      · obtain ⟨vs, hvs, hwrite⟩ := ih hcall
        exact ⟨vs, fun t ht => by simp [hvs ht], hwrite⟩

end Token

/-- The error of a call that cannot be resolved is at its name or at one of its arguments. -/
theorem Token.WriteCall.fits {tokens ts : List Token} {call : FilterCall} (h : WriteCall ts call)
    (hshaped : ∀ t ∈ tokens, t.Shaped) (hts : ts ⊆ tokens) {e : CompileError} {cache : FormatCache}
    (hcache : cache.WellFormed) (he : (Step.resolve call cache).1 = .error e) (finish : Span) :
    e.Fits tokens finish (some call) := by
  obtain ⟨⟨name, hname, hspan, htext⟩, hargs⟩ := h.exists_tokens
  obtain ⟨least, most, rfl⟩ | ⟨arg, harg, reason, rfl⟩ |
      ⟨text, span, family, reason, hpattern, rfl⟩ := Step.resolve_error_cases hcache he
  · rw [← hspan]
    exact fits_token (hts hname) htext
  · obtain ⟨t, ht, hwrites⟩ := hargs arg harg
    rw [hwrites.span_eq]
    exact fits_token (hts ht) ⟨call, rfl, rfl, arg, harg, t, hts ht, hwrites, rfl, rfl⟩
  · obtain ⟨t, ht, hwrites⟩ := hargs _ hpattern
    rw [show span = t.span from hwrites.span_eq]
    exact fits_token (hts ht) (hwrites.quoted (hshaped t (hts ht)))

end TextTemplate
