import Mathlib.Order.Bounds.Defs
import TextTemplate.Proofs.FaultMarks
import TextTemplate.Proofs.TokenGaps

/-!
Which token a parse error is reported at. Tokens are viable if some body that can be parsed starts
with them. The parser stops behind the longest viable front of the tokens: what it has read can be
completed by one more token at most, and with the token that it stops at no body can be parsed.
-/
namespace TextTemplate
open Token Syntax

/-- Some body that can be parsed starts with these tokens. -/
def Token.Viable (tokens : List Token) : Prop :=
  ∃ body bodySpan span i, parseInterpolation body bodySpan span = .ok i ∧
    tokens <+: Token.ofBody body bodySpan.start

/-- The error is reported where these tokens are ahead, and an open quote there is its fault. -/
structure CompileError.At (e : CompileError) (finish : Span) (ahead : List Token) : Prop where
  span_eq : e.span = ahead.head?.elim finish (·.span)
  openQuote : ∀ t ∈ ahead.head?, t.kind = .openQuote → e.fault = .unterminatedQuote

theorem Cursor.unexpected_at (expected : Expected) (ts : List Token) (finish : Span) :
    (unexpected expected ⟨ts, finish⟩).At finish ts := by
  cases ts with
  | nil => exact ⟨rfl, by simp⟩
  | cons t ts =>
      rw [unexpected_cons]
      split
      · exact ⟨rfl, fun _ _ _ => rfl⟩
      · rename_i hkind
        exact ⟨rfl, by simp [hkind]⟩

theorem Syntax.missingName_at (ts : List Token) (finish : Span) :
    (missingName ⟨ts, finish⟩).At finish ts := by
  cases ts with
  | nil => exact ⟨rfl, by simp⟩
  | cons t ts =>
      rw [missingName_cons]
      split
      · exact ⟨rfl, fun _ _ _ => rfl⟩
      · rename_i hkind
        exact ⟨rfl, by simp [hkind]⟩

/-- A fault of a token that is no open quote, reported at it. -/
theorem at_token {t : Token} (hkind : t.kind ≠ .openQuote) (fault : Fault) (ts : List Token)
    (finish : Span) : CompileError.At ⟨fault, t.span⟩ finish (t :: ts) :=
  ⟨rfl, by simp [hkind]⟩

theorem lexemes_name : lexemes "trim".toList = [⟨.bare, "trim".toList⟩] := by decide +kernel

theorem lexemes_quoted : lexemes "''".toList = [⟨.quoted, "''".toList⟩] := by decide +kernel

/-- A text that is lexed as one token, which is a path and the name of a filter. -/
theorem exists_name {more : List Token} (h : more.map (·.lexeme) = lexemes "trim".toList) :
    ∃ t, more = [t] ∧ t.kind = .bare ∧ t.text = "trim" := by
  rw [lexemes_name] at h
  obtain ⟨t, rfl, ht⟩ := List.map_eq_singleton_iff.1 h
  have hchars : t.text.toList = "trim".toList := congrArg Lexeme.chars ht
  exact ⟨t, rfl, congrArg Lexeme.kind ht, String.toList_inj.1 hchars⟩

/-- A text that is lexed as one token, which every filter takes as an argument. -/
theorem exists_quoted (filter : Filter) {more : List Token}
    (h : more.map (·.lexeme) = lexemes "''".toList) :
    ∃ t, more = [t] ∧ ∃ arg, t.WritesArgument filter arg := by
  rw [lexemes_quoted] at h
  obtain ⟨t, rfl, ht⟩ := List.map_eq_singleton_iff.1 h
  have hchars : t.text.toList = '\'' :: [] ++ ['\''] := congrArg Lexeme.chars ht
  exact ⟨t, rfl, _, .str (congrArg Lexeme.kind ht) hchars⟩

/-- How a parser fails: with an error behind tokens that some text completes to what is accepted,
and at one with which it never succeeds, or at the end. -/
structure StopsAt {α : Type} (parse : Span → List Token → Except CompileError α)
    (Accepts : List Token → Prop) (finish : Span) (e : CompileError) (front ahead : List Token) :
    Prop where
  place : e.At finish ahead
  completes : ∃ text : List Char, ∀ more : List Token,
    more.map (·.lexeme) = lexemes text → Accepts (front ++ more)
  hopeless : ∀ t ∈ ahead.head?, ∀ finish' more a, parse finish' (front ++ t :: more) ≠ .ok a

namespace StopsAt

variable {α β : Type} {parse : Span → List Token → Except CompileError α}
  {parse' : Span → List Token → Except CompileError β} {Accepts Accepts' : List Token → Prop}
  {finish : Span} {e : CompileError} {front ahead : List Token}

/-- Tokens that are accepted as they are, with the first of those ahead not. -/
theorem of_accepts (place : e.At finish ahead) (h : Accepts front)
    (hopeless : ∀ t ∈ ahead.head?, ∀ finish' more a, parse finish' (front ++ t :: more) ≠ .ok a) :
    StopsAt parse Accepts finish e front ahead := by
  refine ⟨place, ⟨[], fun more hmore => ?_⟩, hopeless⟩
  obtain rfl : more = [] := by simpa [lexemes, lexFrom] using hmore
  rwa [List.append_nil]

/-- A parser that has read tokens of its own stops where the one that it then calls does. -/
theorem behind (h : StopsAt parse Accepts finish e front ahead) (read : List Token)
    (haccepts : ∀ us, Accepts us → Accepts' (read ++ us))
    (hparse : ∀ t ∈ ahead.head?, ∀ finish' more a,
      parse' finish' (read ++ (front ++ t :: more)) = .ok a →
        ∃ b, parse finish' (front ++ t :: more) = .ok b) :
    StopsAt parse' Accepts' finish e (read ++ front) ahead := by
  refine ⟨h.place, ?_, fun t ht finish' more a hok => ?_⟩
  · obtain ⟨text, htext⟩ := h.completes
    refine ⟨text, fun more hmore => ?_⟩
    rw [List.append_assoc]
    exact haccepts _ (htext more hmore)
  · rw [List.append_assoc] at hok
    obtain ⟨b, hb⟩ := hparse t ht finish' more a hok
    exact h.hopeless t ht finish' more b hb

end StopsAt

section
variable {finish : Span} {e : CompileError}

theorem argument_at {filter : Filter} {t : Token} (h : argument filter t finish = .error e)
    (ts : List Token) : e.At finish (t :: ts) := by
  rw [argument] at h
  split at h
  · cases h
  · rename_i hkind
    split at h <;> cases h
    exact at_token (by simp [hkind]) _ ts finish
  · cases h
    exact Cursor.unexpected_at .filterArgument (t :: ts) finish

/-- The end of the body does not decide what a token is as an argument. -/
theorem argument_finish (filter : Filter) (t : Token) (finish finish' : Span) :
    argument filter t finish = argument filter t finish' := rfl

theorem parseArguments_stops {filter : Filter} {ts : List Token} (hts : ∀ t ∈ ts, t.Shaped)
    (h : parseArguments finish filter ts = .error e) :
    ∃ front ahead, ts = front ++ ahead ∧ StopsAt (parseArguments · filter)
      (fun us => ∃ args, WriteArguments filter us args) finish e front ahead := by
  have hquoted : ∃ text : List Char, ∀ more : List Token, more.map (·.lexeme) = lexemes text →
      ∃ args, WriteArguments filter more args := by
    refine ⟨"''".toList, fun more hmore => ?_⟩
    obtain ⟨t, rfl, arg, harg⟩ := exists_quoted filter hmore
    exact ⟨[arg], .single harg⟩
  fun_induction parseArguments finish filter ts with
  | case1 =>
      cases h
      exact ⟨[], [], rfl, Cursor.unexpected_at _ _ _, hquoted, by simp⟩
  | case2 t ts e' harg =>
      cases h
      refine ⟨[], t :: ts, rfl, argument_at harg ts, hquoted, ?_⟩
      intro u hu finish' more a
      cases hu
      simp [parseArguments, argument_finish filter t finish' finish, harg]
  | case3 | case5 | case6 => cases h
  | case4 t arg harg separator rest hcomma e' hrest ih =>
      cases h
      simp only [List.forall_mem_cons] at hts
      obtain ⟨front, ahead, rfl, hstops⟩ := ih hts.2.2 hrest
      have hwrites := (argument_eq_ok_iff hts.1 finish arg).1 harg
      refine ⟨[t, separator] ++ front, ahead, rfl, hstops.behind _ ?_ ?_⟩
      · intro us hus
        obtain ⟨args, hargs⟩ := hus
        exact ⟨arg :: args, .cons hwrites hcomma hargs⟩
      · intro u hu finish' more a hok
        simp only [List.cons_append, List.nil_append, parseArguments,
          argument_finish filter t finish' finish, harg, hcomma, if_true] at hok
        split at hok
        · cases hok
        · rename_i hok'
          exact ⟨_, hok'⟩

/-- Arguments end in front of what is no comma. -/
theorem head_of_parseArguments {filter : Filter} {ts rest : List Token} {args : List Argument}
    (h : parseArguments finish filter ts = .ok (args, rest)) :
    ∀ t ∈ rest.head?, t.kind ≠ .comma := by
  fun_induction parseArguments finish filter ts generalizing args with
  | case1 | case2 | case4 => cases h
  | case3 =>
      cases h
      simp
  | case5 t arg harg separator rest' hcomma args' rest'' hrest ih =>
      cases h
      exact ih hrest
  | case6 t arg harg separator rest' hcomma =>
      cases h
      simpa using hcomma

/-- A call ends in front of a bar. -/
theorem head_of_parseCall {ts rest : List Token} {call : FilterCall}
    (h : parseCall finish ts = .ok (call, rest)) : ∀ t ∈ rest.head?, t.kind = .bar := by
  cases ts with
  | nil => cases h
  | cons t ts =>
      rw [parseCall] at h
      repeat' split at h
      all_goals cases h
      rename_i hends
      cases rest with
      | nil => simp
      | cons u rest => simpa [endsCall] using hends

/-- Behind the name of a filter. -/
theorem parseCall_stops_behind {t : Token} {filter : Filter} (hkind : t.kind = .bare)
    (hname : Filter.ofName? t.text = some filter) {ts : List Token} (hts : ∀ u ∈ ts, u.Shaped)
    (h : parseCall finish (t :: ts) = .error e) :
    ∃ front ahead, ts = front ++ ahead ∧ StopsAt parseCall (fun us => ∃ call, WriteCall us call)
      finish e (t :: front) ahead := by
  have htext := ofName?_eq_some_iff.1 hname
  simp only [parseCall, hkind, if_true, hname] at h
  cases ts with
  | nil => cases h
  | cons u ts =>
      rw [parseColonArguments] at h
      by_cases hcolon : u.kind = .colon
      · rw [if_pos hcolon] at h
        rw [List.forall_mem_cons] at hts
        cases hargs : parseArguments finish filter ts with
        | error e' =>
            rw [hargs] at h
            cases h
            obtain ⟨front, ahead, rfl, hstops⟩ := parseArguments_stops hts.2 hargs
            refine ⟨u :: front, ahead, rfl, hstops.behind [t, u] ?_ ?_⟩
            · intro us hus
              obtain ⟨args, hwrite⟩ := hus
              exact ⟨_, .arguments hkind htext hcolon hwrite⟩
            · intro v hv finish' more a hok
              simp only [List.cons_append, List.nil_append, parseCall, hkind, if_true, hname,
                parseColonArguments, hcolon] at hok
              split at hok
              · cases hok
              · rename_i hok'
                exact ⟨_, hok'⟩
        | ok result =>
            obtain ⟨args, rest⟩ := result
            obtain ⟨front, rfl, hwrite⟩ := writeArguments_of_parse hts.2 hargs
            have hhead := head_of_parseArguments hargs
            simp only [hargs] at h
            split at h <;> cases h
            rename_i hends
            refine ⟨u :: front, rest, rfl, .of_accepts (Cursor.unexpected_at _ _ _)
              ⟨_, .arguments hkind htext hcolon hwrite⟩ ?_⟩
            intro v hv finish' more a
            obtain ⟨rest', rfl⟩ : ∃ rest', rest = v :: rest' := List.head?_eq_some_iff.1 hv
            have hfront : parseArguments finish' filter (front ++ v :: more) =
                .ok (args, v :: more) :=
              parseArguments_of_write (fun w hw => hts.2 w (by simp [hw])) hwrite hhead
            have hbar : v.kind ≠ .bar := by simpa [endsCall] using hends
            simp [parseCall, hkind, hname, parseColonArguments, hcolon, hfront, endsCall, hbar]
      · simp only [if_neg hcolon] at h
        split at h <;> cases h
        rename_i hends
        have hbar : u.kind ≠ .bar := by simpa [endsCall] using hends
        refine ⟨[], u :: ts, rfl, .of_accepts (Cursor.unexpected_at _ _ _)
          ⟨_, .name hkind htext⟩ ?_⟩
        intro v hv finish' more a
        cases hv
        simp [parseCall, hkind, hname, parseColonArguments, hcolon, endsCall, hbar]

theorem parseCall_stops {ts : List Token} (hts : ∀ t ∈ ts, t.Shaped)
    (h : parseCall finish ts = .error e) :
    ∃ front ahead, ts = front ++ ahead ∧
      StopsAt parseCall (fun us => ∃ call, WriteCall us call) finish e front ahead := by
  have hname : ∃ text : List Char, ∀ more : List Token, more.map (·.lexeme) = lexemes text →
      ∃ call, WriteCall more call := by
    refine ⟨"trim".toList, fun more hmore => ?_⟩
    obtain ⟨t, rfl, hkind, htext⟩ := exists_name hmore
    exact ⟨_, .name hkind (show t.text = Filter.trim.name from htext)⟩
  cases ts with
  | nil =>
      cases h
      exact ⟨[], [], rfl, missingName_at _ _, hname, by simp⟩
  | cons t ts =>
      by_cases hkind : t.kind = .bare
      · cases hfilter : Filter.ofName? t.text with
        | none =>
            simp only [parseCall, hkind, if_true, hfilter] at h
            cases h
            refine ⟨[], t :: ts, rfl, at_token (by simp [hkind]) _ ts finish, hname, ?_⟩
            intro u hu finish' more a
            cases hu
            simp [parseCall, hkind, hfilter]
        | some filter =>
            rw [List.forall_mem_cons] at hts
            obtain ⟨front, ahead, rfl, hstops⟩ := parseCall_stops_behind hkind hfilter hts.2 h
            exact ⟨t :: front, ahead, rfl, hstops⟩
      · simp only [parseCall, if_neg hkind] at h
        cases h
        refine ⟨[], t :: ts, rfl, missingName_at _ _, hname, ?_⟩
        intro u hu finish' more a
        cases hu
        simp [parseCall, hkind]

theorem parseCalls_stops {ts : List Token} (hts : ∀ t ∈ ts, t.Shaped)
    (h : parseCalls finish ts = .error e) :
    ∃ front ahead, ts = front ++ ahead ∧
      StopsAt parseCalls (fun us => ∃ calls, WriteCalls us calls) finish e front ahead := by
  fun_induction parseCalls finish ts with
  | case1 | case4 => cases h
  | case2 t rest hbar e' hcall =>
      cases h
      rw [List.forall_mem_cons] at hts
      obtain ⟨front, ahead, rfl, hstops⟩ := parseCall_stops hts.2 hcall
      refine ⟨[t] ++ front, ahead, rfl, hstops.behind _ ?_ ?_⟩
      · intro us hus
        obtain ⟨call, hwrite⟩ := hus
        have hcalls := WriteCalls.cons hbar hwrite .nil
        rw [List.append_nil] at hcalls
        exact ⟨_, hcalls⟩
      · intro u hu finish' more a hok
        rw [List.singleton_append, parseCalls_cons, if_pos hbar] at hok
        split at hok
        · cases hok
        · rename_i hok'
          exact ⟨_, hok'⟩
  | case3 t rest hbar call rest' hcall _ e' hcalls ih =>
      cases h
      rw [List.forall_mem_cons] at hts
      have hhead := head_of_parseCall hcall
      obtain ⟨read, rfl, hwrite⟩ := writeCall_of_parse hts.2 hcall
      obtain ⟨front, ahead, rfl, hstops⟩ := ih (fun u hu => hts.2 u (by simp [hu])) hcalls
      refine ⟨t :: read ++ front, ahead, by simp, hstops.behind _ ?_ ?_⟩
      · intro us hus
        obtain ⟨calls, hrest⟩ := hus
        exact ⟨_, .cons hbar hwrite hrest⟩
      · intro u hu finish' more a hok
        have hcall' : parseCall finish' (read ++ (front ++ u :: more)) =
            .ok (call, front ++ u :: more) := by
          refine parseCall_of_write (fun w hw => hts.2 w (by simp [hw])) hwrite ?_
          cases front with
          | nil =>
              intro w hw
              cases hw
              exact hhead u hu
          | cons v front => exact hhead
        rw [List.cons_append, parseCalls_cons, if_pos hbar, hcall'] at hok
        exact exists_ok_of_map hok
  | case5 t rest hbar =>
      cases h
      refine ⟨[], t :: rest, rfl, .of_accepts (Cursor.unexpected_at _ _ _) ⟨[], .nil⟩ ?_⟩
      intro u hu finish' more a
      cases hu
      simp [parseCalls_cons, hbar]

theorem parsePath_at {ts : List Token} (h : parsePath finish ts = .error e) :
    e.At finish ts := by
  cases ts with
  | nil =>
      cases h
      exact Cursor.unexpected_at .propertyPath [] finish
  | cons t ts =>
      rw [parsePath] at h
      split at h
      · rename_i hkind
        split at h <;> cases h
        refine at_token ?_ _ ts finish
        obtain hbare | hquoted := hkind
        · simp [hbare]
        · simp [hquoted]
      · cases h
        exact Cursor.unexpected_at .propertyPath (t :: ts) finish

/-- The parser of a whole body, which is not empty. -/
theorem parseTokens_stops {span : Span} {ts : List Token} (hts : ∀ t ∈ ts, t.Shaped)
    (hne : ts ≠ []) (h : parseTokens finish span ts = .error e) :
    ∃ front ahead, ts = front ++ ahead ∧ ∀ span', StopsAt (parseTokens · span')
      (fun us => ∃ path calls, WriteInterpolation us path calls) finish e front ahead := by
  cases ts with
  | nil => exact absurd rfl hne
  | cons t ts =>
      rw [parseTokens] at h
      by_cases hpath : ∃ path, t.WritesPath path
      · obtain ⟨path, hwrites⟩ := hpath
        have hread (finish' : Span) (us : List Token) :
            parsePath finish' (t :: us) = .ok (path, us) :=
          parsePath_eq_ok_iff.2 ⟨t, rfl, hwrites⟩
        rw [List.forall_mem_cons] at hts
        simp only [hread] at h
        cases hcalls : parseCalls finish ts with
        | ok calls =>
            rw [hcalls] at h
            cases h
        | error e' =>
            rw [hcalls] at h
            cases h
            obtain ⟨front, ahead, rfl, hstops⟩ := parseCalls_stops hts.2 hcalls
            refine ⟨[t] ++ front, ahead, rfl, fun span' => hstops.behind _ ?_ ?_⟩
            · intro us hus
              obtain ⟨calls, hwrite⟩ := hus
              exact ⟨path, calls, .mk hwrites hwrite⟩
            · intro u hu finish' more a hok
              simp only [List.singleton_append, parseTokens, hread] at hok
              exact exists_ok_of_map hok
      · have hnone (finish' : Span) (us : List Token) (result : Path × List Token) :
            parsePath finish' (t :: us) ≠ .ok result := by
          intro hok
          obtain ⟨t', heq, hwrites⟩ := parsePath_eq_ok_iff.1 hok
          cases heq
          exact hpath ⟨_, hwrites⟩
        cases hread : parsePath finish (t :: ts) with
        | ok result => exact absurd hread (hnone finish ts result)
        | error e' =>
            rw [hread] at h
            cases h
            refine ⟨[], t :: ts, rfl, fun span' =>
              ⟨parsePath_at hread, ⟨"trim".toList, fun more hmore => ?_⟩, ?_⟩⟩
            · obtain ⟨u, rfl, hkind, htext⟩ := exists_name hmore
              have hname : IsName "trim" := (isName_iff _).1 (by decide +kernel)
              have hwrites : u.WritesPath ⟨"trim", [], u.span⟩ :=
                ⟨hkind, htext, by simpa [Path.names] using hname, rfl⟩
              exact ⟨_, [], .mk hwrites .nil⟩
            · intro u hu finish' more a hok
              cases hu
              simp only [List.nil_append, parseTokens] at hok
              split at hok
              · cases hok
              · rename_i hok'
                exact hnone _ _ _ hok'

end

namespace Token

theorem WritesArgument.closed {filter : Filter} {t : Token} {arg : Argument}
    (h : t.WritesArgument filter arg) : t.kind ≠ .openQuote := by
  cases h with
  | str kind _ | number kind _ _ _ | keyword kind _ _ => simp [kind]

theorem WriteArguments.closed {filter : Filter} {ts : List Token} {args : List Argument}
    (h : WriteArguments filter ts args) : ∀ t ∈ ts, t.kind ≠ .openQuote := by
  induction h with
  | single h => simpa using h.closed
  | cons h comma _ ih => simpa [h.closed, comma] using ih

theorem WriteCall.closed {ts : List Token} {call : FilterCall} (h : WriteCall ts call) :
    ∀ t ∈ ts, t.kind ≠ .openQuote := by
  cases h with
  | name kind _ => simp [kind]
  | arguments kind _ colon rest => simpa [kind, colon] using rest.closed

theorem WriteCalls.closed {ts : List Token} {calls : List FilterCall} (h : WriteCalls ts calls) :
    ∀ t ∈ ts, t.kind ≠ .openQuote := by
  induction h with
  | nil => simp
  | cons bar first _ ih =>
      intro t ht
      rw [List.mem_append, List.mem_cons] at ht
      obtain (rfl | ht) | ht := ht
      · simp [bar]
      · exact first.closed t ht
      · exact ih t ht

/-- No quote is left open in what writes an interpolation. -/
theorem WriteInterpolation.closed {ts : List Token} {path : Path} {calls : List FilterCall}
    (h : WriteInterpolation ts path calls) : ∀ t ∈ ts, t.kind ≠ .openQuote := by
  cases h with
  | mk first rest => simpa [first.kind] using rest.closed

/-- A body can be cut behind any of its tokens that leaves no quote open, and goes on with anything
behind a blank. -/
theorem lexFrom_cut {base offset : Nat} {cs : List Char} {front ahead : List Token}
    (h : lexFrom base offset cs = front ++ ahead) (hclosed : ∀ t ∈ front, t.kind ≠ .openQuote) :
    ∃ pre post, cs = pre ++ post ∧ ∀ text, ∃ offset',
      lexFrom base offset (pre ++ ' ' :: text) = front ++ lexFrom base offset' text := by
  have hblank (offset' : Nat) (text : List Char) :
      lexFrom base offset' (' ' :: text) = lexFrom base (offset' + ' '.utf8Size) text := by
    rw [lexFrom, if_pos (by decide)]
  fun_induction lexFrom base offset cs generalizing front with
  | case1 =>
      obtain ⟨rfl, -⟩ := List.append_eq_nil_iff.1 h.symm
      exact ⟨[], [], rfl, fun text => ⟨_, hblank _ text⟩⟩
  | case2 offset c cs hgap ih =>
      obtain ⟨pre, post, rfl, hcut⟩ := ih h hclosed
      refine ⟨c :: pre, post, rfl, fun text => ?_⟩
      obtain ⟨offset', hlex⟩ := hcut text
      exact ⟨offset', by rw [List.cons_append, lexFrom, if_pos hgap, hlex]⟩
  | case3 =>
      rename_i offset c cs hgap token stop ih
      cases front with
      | nil => exact ⟨[], c :: cs, rfl, fun text => ⟨_, hblank offset text⟩⟩
      | cons t front =>
          rw [List.cons_append, List.cons.injEq] at h
          obtain ⟨rfl, h⟩ := h
          rw [List.forall_mem_cons] at hclosed
          obtain ⟨pre, post, hrest, hcut⟩ := ih h hclosed.2
          have hcomplete : Lexeme.Complete ⟨token.1, token.2.1⟩ :=
            ⟨shape_first cs (Bool.not_eq_true _ ▸ hgap), hclosed.1⟩
          obtain ⟨d, chars, hchars, -, -⟩ := hcomplete.start
          have happend : token.2.1 ++ token.2.2 = c :: cs := first_append c cs
          rw [show token.2.1 = d :: chars from hchars, List.cons_append, hrest] at happend
          obtain ⟨rfl, hcs⟩ := List.cons.inj happend
          refine ⟨d :: chars ++ pre, post, by simp [← hcs], fun text => ?_⟩
          have hfirst : first d (chars ++ (pre ++ ' ' :: text)) =
              (token.1, token.2.1, pre ++ ' ' :: text) := by
            refine hcomplete.first_eq hchars fun hbare e he => ?_
            cases pre with
            | nil =>
                cases he
                decide
            | cons e' pre =>
                cases he
                have hbehind : first d cs = (.bare, token.2.1, token.2.2) := Prod.ext hbare rfl
                exact head_of_first_bare hbehind (by simp [hrest])
          obtain ⟨offset', hlex⟩ := hcut text
          refine ⟨offset', ?_⟩
          rw [List.append_assoc, List.cons_append, lexFrom, if_neg hgap, hfirst, List.cons_append]
          exact congrArg _ hlex

/-- The tokens that a body starts with are viable if some text completes them. -/
theorem viable_of_completes {body : String} {base : Nat} {front ahead : List Token}
    (h : Token.ofBody body base = front ++ ahead) {text : List Char}
    (htext : ∀ more : List Token, more.map (·.lexeme) = lexemes text →
      ∃ path calls, WriteInterpolation (front ++ more) path calls) : Viable front := by
  have hclosed : ∀ t ∈ front, t.kind ≠ .openQuote := by
    obtain ⟨path, calls, hwrite⟩ := htext _ (map_lexeme_lexFrom 0 0 text)
    exact fun t ht => hwrite.closed t (List.mem_append_left _ ht)
  obtain ⟨pre, post, -, hcut⟩ := lexFrom_cut h hclosed
  obtain ⟨offset, hlex⟩ := hcut text
  obtain ⟨path, calls, hwrite⟩ := htext _ (map_lexeme_lexFrom base offset text)
  have htokens : Token.ofBody (String.ofList (pre ++ ' ' :: text)) base =
      front ++ lexFrom base offset text := by
    rw [Token.ofBody, String.toList_ofList, hlex]
  rw [← htokens] at hwrite
  refine ⟨_, ⟨base, 0⟩, .dummy, _, parseInterpolation_of_write hwrite .dummy, ?_⟩
  rw [htokens]
  exact List.prefix_append _ _

theorem Viable.of_prefix {front tokens : List Token} (h : Viable tokens)
    (hfront : front <+: tokens) : Viable front := by
  obtain ⟨body, bodySpan, span, i, hparse, htokens⟩ := h
  exact ⟨body, bodySpan, span, i, hparse, hfront.trans htokens⟩

end Token

namespace Syntax

/-- The error of a body with tokens is reported at the first token with which no body can be parsed,
or at the end of the body if there is none. An open quote there is reported as such. -/
theorem parseInterpolation_error {body : String} {bodySpan span : Span}
    (hne : Token.ofBody body bodySpan.start ≠ []) {e : CompileError}
    (h : parseInterpolation body bodySpan span = .error e) :
    let tokens := Token.ofBody body bodySpan.start
    ∃ i, IsLeast {i | i < tokens.length ∧ ¬ Viable (tokens.take (i + 1)) ∨ i = tokens.length} i ∧
      e.span = tokens[i]?.elim (.point bodySpan.stop) (·.span) ∧
      ∀ t ∈ tokens[i]?, t.kind = .openQuote → e.fault = .unterminatedQuote := by
  intro tokens
  have hshaped := shaped_of_mem_ofBody body bodySpan.start
  rw [parseInterpolation_eq] at h
  obtain ⟨front, ahead, htokens, hstops⟩ := parseTokens_stops hshaped hne h
  have hviable : Viable front := by
    obtain ⟨text, htext⟩ := (hstops span).completes
    exact viable_of_completes htokens htext
  have hsplit : tokens = front ++ ahead := htokens
  have hahead : tokens[front.length]? = ahead.head? := by
    rw [hsplit, List.getElem?_append_right (Nat.le_refl _), Nat.sub_self, List.head?_eq_getElem?]
  refine ⟨front.length, ⟨?_, fun j hj => ?_⟩, ?_, ?_⟩
  · cases ahead with
    | nil => exact .inr (by simp [hsplit])
    | cons t ahead =>
        refine .inl ⟨by simp [hsplit], fun hcompletes => ?_⟩
        obtain ⟨body', bodySpan', span', i, hparse, more, hmore⟩ := hcompletes
        rw [hsplit, List.take_length_add_append, List.append_assoc] at hmore
        rw [parseInterpolation_eq, ← hmore] at hparse
        exact (hstops span').hopeless t rfl _ _ _ hparse
  · obtain ⟨hlt, hhopeless⟩ | rfl := hj
    · by_contra hle
      refine hhopeless (hviable.of_prefix ?_)
      rw [hsplit, List.take_append_of_le_length (by omega)]
      exact List.take_prefix _ _
    · simp [hsplit]
  · rw [hahead]
    exact (hstops span).place.span_eq
  · rw [hahead]
    exact (hstops span).place.openQuote

/-- Behind an argument a quote is opened that is never closed: up to there the tokens can be
completed. -/
theorem parseInterpolation_error_quote :
    let body := "é | pad:3 'ab"
    let tokens := Token.ofBody body 2
    parseInterpolation body ⟨2, 16⟩ ⟨0, 18⟩ = .error ⟨.unterminatedQuote, ⟨13, 16⟩⟩ ∧
      tokens.length = 6 ∧ Viable (tokens.take 5) ∧ ¬ Viable tokens := by
  intro body tokens
  have herror : parseInterpolation body ⟨2, 16⟩ ⟨0, 18⟩ =
      .error ⟨.unterminatedQuote, ⟨13, 16⟩⟩ := by decide +kernel
  have hlength : tokens.length = 6 := by decide +kernel
  have hne : tokens ≠ [] := List.ne_nil_of_length_pos (by omega)
  obtain ⟨i, ⟨hi, hleast⟩, hspan, -⟩ : ∃ i, IsLeast {i | i < tokens.length ∧
      ¬ Viable (tokens.take (i + 1)) ∨ i = tokens.length} i ∧
      Span.mk 13 16 = tokens[i]?.elim (.point 16) (·.span) ∧ _ :=
    parseInterpolation_error hne herror
  have hplace : ∀ j < 7, (Span.mk 13 16) = tokens[j]?.elim (.point 16) (·.span) → j = 5 := by
    decide +kernel
  clear_value tokens
  have hle : i ≤ tokens.length := hleast (.inr rfl)
  obtain rfl := hplace i (by omega) hspan
  obtain ⟨-, hhopeless⟩ | hlast := hi
  · rw [List.take_of_length_le (by omega)] at hhopeless
    refine ⟨herror, hlength, ?_, hhopeless⟩
    by_contra hearlier
    have hsooner : 5 ≤ 4 := hleast (.inl ⟨by omega, hearlier⟩)
    omega
  · omega

end Syntax

end TextTemplate
