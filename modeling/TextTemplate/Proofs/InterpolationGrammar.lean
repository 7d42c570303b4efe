import TextTemplate.Proofs.TokenShape
import TextTemplate.Syntax.Parser

/-!
The grammar of interpolations, as relations between tokens and what they write. The parser
succeeds exactly on the token lists of the grammar, and returns what they write.
-/
namespace TextTemplate
open Token

/-- A property name is a non-empty run of letters, digits and three marks. -/
def IsName (name : String) : Prop :=
  name.toList ≠ [] ∧
    ∀ c ∈ name.toList, Text.isAlphanumeric c = true ∨ c = '_' ∨ c = '$' ∨ c = '-'

namespace Token

/-- A path is one bare token: its names, with points between them. -/
structure WritesPath (t : Token) (p : Path) : Prop where
  kind : t.kind = .bare
  text : t.text = ".".intercalate p.names
  names : ∀ name ∈ p.names, IsName name
  span : p.span = t.span

/-- An argument is a quoted text, or a bare one that is a number if it reads as a finite one.
Filters that take a pattern have it quoted. -/
inductive WritesArgument (filter : Filter) (t : Token) : Argument → Prop
  | str (kind : t.kind = .quoted) {quote : Char} {value : List Char}
      (text : t.text.toList = quote :: value ++ [quote]) :
      WritesArgument filter t (.str (String.ofList value) t.span)
  | number (kind : t.kind = .bare) (noPattern : filter ≠ .number ∧ filter ≠ .time) {x : Double}
      (reads : Double.ofText? t.text.toList = some x) (finite : x.isFinite = true) :
      WritesArgument filter t (.number x t.span)
  | keyword (kind : t.kind = .bare) (noPattern : filter ≠ .number ∧ filter ≠ .time)
      (noNumber : ∀ x, Double.ofText? t.text.toList = some x → x.isFinite = false) :
      WritesArgument filter t (.keyword t.text t.span)

/-- One or more arguments with a comma between any two. -/
inductive WriteArguments (filter : Filter) : List Token → List Argument → Prop
  | single {t : Token} {arg : Argument} (h : t.WritesArgument filter arg) :
      WriteArguments filter [t] [arg]
  | cons {t separator : Token} {arg : Argument} {ts : List Token} {args : List Argument}
      (h : t.WritesArgument filter arg) (comma : separator.kind = .comma)
      (rest : WriteArguments filter ts args) :
      WriteArguments filter (t :: separator :: ts) (arg :: args)

/-- A filter call is the name of a filter, behind which a colon and arguments may stand. -/
inductive WriteCall : List Token → FilterCall → Prop
  | name {t : Token} {filter : Filter} (kind : t.kind = .bare) (name : t.text = filter.name) :
      WriteCall [t] ⟨filter, [], t.span⟩
  | arguments {t separator : Token} {filter : Filter} {ts : List Token} {args : List Argument}
      (kind : t.kind = .bare) (name : t.text = filter.name) (colon : separator.kind = .colon)
      (rest : WriteArguments filter ts args) :
      WriteCall (t :: separator :: ts) ⟨filter, args, t.span⟩

/-- Any number of filter calls, each behind a bar. -/
inductive WriteCalls : List Token → List FilterCall → Prop
  | nil : WriteCalls [] []
  | cons {separator : Token} {ts us : List Token} {call : FilterCall} {calls : List FilterCall}
      (bar : separator.kind = .bar) (first : WriteCall ts call) (rest : WriteCalls us calls) :
      WriteCalls (separator :: ts ++ us) (call :: calls)

/-- An interpolation is a path and filter calls. -/
inductive WriteInterpolation : List Token → Path → List FilterCall → Prop
  | mk {t : Token} {ts : List Token} {path : Path} {calls : List FilterCall}
      (first : t.WritesPath path) (rest : WriteCalls ts calls) :
      WriteInterpolation (t :: ts) path calls

end Token

namespace Syntax

theorem isName_iff (name : String) : isName name.toList = true ↔ IsName name := by
  simp [isName, isNameChar, IsName, or_assoc]

theorem not_isName_of_point {cs : List Char} (h : isName cs = true) : '.' ∉ cs := by
  intro hmem
  simp only [isName, Bool.and_eq_true, List.all_eq_true] at h
  exact absurd (h.2 '.' hmem) (by decide +kernel)

theorem splitPoints_eq_splitOn (cs : List Char) : splitPoints cs = cs.splitOn '.' := by
  induction cs with
  | nil => rfl
  | cons c cs ih =>
      rw [splitPoints, List.splitOn_cons_eq_if_modifyHead, ih]
      by_cases hc : c = '.'
      · simp [hc]
      · rw [if_neg hc, if_neg (by simpa using hc)]
        cases hs : cs.splitOn '.' with
        | nil => exact absurd hs (List.splitOn_ne_nil _ _)
        | cons piece pieces => rfl

theorem path?_eq_some_iff (t : Token) (p : Path) : path? t = some p ↔ t.WritesPath p := by
  simp only [path?, splitPoints_eq_splitOn]
  constructor
  · intro h
    split at h
    · rename_i hpieces
      cases hs : t.text.toList.splitOn '.' with
      | nil => exact absurd hs (List.splitOn_ne_nil _ _)
      | cons piece pieces =>
          rw [hs] at h hpieces
          cases h
          have htext : ['.'].intercalate (t.text.toList.splitOn '.') = t.text.toList :=
            List.intercalate_splitOn '.'
          refine ⟨hpieces.1, ?_, ?_, rfl⟩
          · rw [← String.toList_inj, String.toList_intercalate, ← htext, hs]
            simp [Path.names]
          · intro name hname
            have hmem : name ∈ (piece :: pieces).map String.ofList := hname
            obtain ⟨cs, hcs, rfl⟩ := List.mem_map.1 hmem
            rw [← isName_iff, String.toList_ofList]
            exact List.all_eq_true.1 hpieces.2 cs hcs
    · cases h
  · intro h
    obtain ⟨hkind, htext, hnames, hspan⟩ := h
    have hall : ∀ cs ∈ p.names.map String.toList, isName cs = true := by
      intro cs hcs
      obtain ⟨name, hname, rfl⟩ := List.mem_map.1 hcs
      exact (isName_iff name).2 (hnames name hname)
    have hpieces : t.text.toList.splitOn '.' = p.names.map String.toList := by
      rw [htext, String.toList_intercalate]
      exact List.splitOn_intercalate '.' (fun cs hcs => not_isName_of_point (hall cs hcs))
        (by simp [Path.names])
    rw [hpieces, if_pos ⟨hkind, List.all_eq_true.2 hall⟩, List.map_map]
    simp [Path.ofNames?, Path.names, ← hspan, Function.comp_def]

theorem parsePath_eq_ok_iff {finish : Span} {ts rest : List Token} {p : Path} :
    parsePath finish ts = .ok (p, rest) ↔ ∃ t, ts = t :: rest ∧ t.WritesPath p := by
  cases ts with
  | nil => simp [parsePath]
  | cons t ts =>
      simp only [parsePath, List.cons.injEq]
      constructor
      · intro h
        split at h
        · cases hp : path? t with
          | none => simp [hp] at h
          | some path =>
              simp only [hp, Except.ok.injEq, Prod.mk.injEq] at h
              obtain ⟨rfl, rfl⟩ := h
              exact ⟨t, ⟨rfl, rfl⟩, (path?_eq_some_iff t _).1 hp⟩
        · cases h
      · intro h
        obtain ⟨t', hcons, hwrites⟩ := h
        obtain ⟨rfl, rfl⟩ := hcons
        rw [if_pos (.inl hwrites.kind), (path?_eq_some_iff t p).2 hwrites]

theorem family?_eq_none_iff (filter : Filter) :
    filter.family? = none ↔ filter ≠ .number ∧ filter ≠ .time := by
  cases filter <;> simp [Filter.family?]

theorem bareArgument_eq_iff {filter : Filter} {t : Token} (hkind : t.kind = .bare)
    (hfilter : filter ≠ .number ∧ filter ≠ .time) (arg : Argument) :
    bareArgument t = arg ↔ t.WritesArgument filter arg := by
  constructor
  · intro heq
    rw [← heq, bareArgument]
    split
    · rename_i negative m hreads
      exact .number hkind hfilter hreads rfl
    · rename_i hreads
      refine .keyword hkind hfilter fun x hx => ?_
      cases x with
      | finite negative m => exact absurd hx (hreads negative m)
      | nan | infinite _ => rfl
  · intro h
    cases h with
    | str hquoted _ =>
        rw [hkind] at hquoted
        cases hquoted
    | @number _ _ x hreads hfinite =>
        cases x with
        | finite negative m => simp [bareArgument, hreads]
        | nan | infinite _ => cases hfinite
    | keyword _ _ hnumber =>
        rw [bareArgument]
        split
        · rename_i negative m hreads
          cases hnumber _ hreads
        · rfl

theorem quotedArgument_eq_iff {filter : Filter} {t : Token} (ht : t.Shaped)
    (hkind : t.kind = .quoted) (arg : Argument) :
    Argument.str t.unquoted t.span = arg ↔ t.WritesArgument filter arg := by
  constructor
  · intro heq
    obtain ⟨quote, value, -, -, htext⟩ : Shape .quoted t.text.toList := hkind ▸ ht
    rw [← heq, unquoted, unquotedChars_of_quoted hkind htext]
    exact .str hkind htext
  · intro h
    cases h with
    | str _ htext => rw [unquoted, unquotedChars_of_quoted hkind htext]
    | number hbare _ _ _ | keyword hbare _ _ =>
        rw [hkind] at hbare
        cases hbare

theorem argument_eq_ok_iff {filter : Filter} {t : Token} (ht : t.Shaped) (finish : Span)
    (arg : Argument) : argument filter t finish = .ok arg ↔ t.WritesArgument filter arg := by
  rw [argument]
  split
  · rename_i hkind
    rw [Except.ok.injEq]
    exact quotedArgument_eq_iff ht hkind arg
  · rename_i hkind
    split
    · rename_i hfamily
      simp only [reduceCtorEq, false_iff]
      have hpattern : ¬ (filter ≠ .number ∧ filter ≠ .time) := by
        rw [← family?_eq_none_iff]
        simpa [Option.isSome_iff_ne_none] using hfamily
      intro h
      cases h with
      | str hquoted _ =>
          rw [hkind] at hquoted
          cases hquoted
      | number _ hfilter _ _ | keyword _ hfilter _ => exact hpattern hfilter
    · rename_i hfamily
      have hfilter := (family?_eq_none_iff filter).1 (by simpa using hfamily)
      rw [Except.ok.injEq]
      exact bareArgument_eq_iff hkind hfilter arg
  · rename_i hquoted hbare
    simp only [reduceCtorEq, false_iff]
    intro h
    cases h with
    | str hkind _ => exact hquoted hkind
    | number hkind _ _ _ | keyword hkind _ _ => exact hbare hkind

theorem writeArguments_of_parse {finish : Span} {filter : Filter} {ts rest : List Token}
    {args : List Argument} (hts : ∀ t ∈ ts, t.Shaped)
    (h : parseArguments finish filter ts = .ok (args, rest)) :
    ∃ front, ts = front ++ rest ∧ WriteArguments filter front args := by
  fun_induction parseArguments finish filter ts generalizing args rest with
  | case1 | case2 | case4 => simp at h
  | case3 t arg harg =>
      simp only [Except.ok.injEq, Prod.mk.injEq] at h
      obtain ⟨rfl, rfl⟩ := h
      exact ⟨[t], rfl, .single ((argument_eq_ok_iff (hts t (by simp)) finish arg).1 harg)⟩
  | case5 t arg harg separator ts hcomma args' rest' hrest ih =>
      simp only [Except.ok.injEq, Prod.mk.injEq] at h
      obtain ⟨rfl, rfl⟩ := h
      obtain ⟨front, hfront, hwrite⟩ := ih (fun t ht => hts t (by simp [ht])) hrest
      refine ⟨t :: separator :: front, by simp [hfront], .cons ?_ hcomma hwrite⟩
      exact (argument_eq_ok_iff (hts t (by simp)) finish arg).1 harg
  | case6 t arg harg separator ts hcomma =>
      simp only [Except.ok.injEq, Prod.mk.injEq] at h
      obtain ⟨rfl, rfl⟩ := h
      exact ⟨[t], rfl, .single ((argument_eq_ok_iff (hts t (by simp)) finish arg).1 harg)⟩

/-- The arguments are read up to a token that is no comma. -/
theorem parseArguments_of_write {finish : Span} {filter : Filter} {front rest : List Token}
    {args : List Argument} (hts : ∀ t ∈ front, t.Shaped) (h : WriteArguments filter front args)
    (hrest : ∀ t ∈ rest.head?, t.kind ≠ .comma) :
    parseArguments finish filter (front ++ rest) = .ok (args, rest) := by
  induction h with
  | @single t arg harg =>
      have hok := (argument_eq_ok_iff (hts t (by simp)) finish arg).2 harg
      cases rest with
      | nil => simp [parseArguments, hok]
      | cons separator rest => simp [parseArguments, hok, hrest separator (by simp)]
  | @cons t separator arg ts args harg hcomma _ ih =>
      have hok := (argument_eq_ok_iff (hts t (by simp)) finish arg).2 harg
      simp only [List.cons_append, parseArguments, hok, hcomma, if_true,
        ih fun t ht => hts t (by simp [ht])]

theorem ofName?_eq_some_iff {name : String} {filter : Filter} :
    Filter.ofName? name = some filter ↔ name = filter.name := by
  constructor
  · intro h
    have hname := List.find?_some h
    exact (eq_of_beq hname).symm
  · intro heq
    rw [heq]
    exact Filter.ofName?_name filter

/-- Behind the name of a filter stand a colon and arguments, or nothing that belongs to it. -/
theorem parseColonArguments_cases {finish : Span} {filter : Filter} {ts rest : List Token}
    {args : List Argument} (hts : ∀ t ∈ ts, t.Shaped)
    (h : parseColonArguments finish filter ts = .ok (args, rest)) :
    (args = [] ∧ rest = ts) ∨ ∃ separator front, separator.kind = .colon ∧
      ts = separator :: (front ++ rest) ∧ WriteArguments filter front args := by
  cases ts with
  | nil =>
      cases h
      exact .inl ⟨rfl, rfl⟩
  | cons separator ts =>
      simp only [parseColonArguments] at h
      split at h
      · rename_i hcolon
        obtain ⟨front, rfl, hwrite⟩ := writeArguments_of_parse (fun t ht => hts t (by simp [ht])) h
        exact .inr ⟨separator, front, hcolon, rfl, hwrite⟩
      · cases h
        exact .inl ⟨rfl, rfl⟩

theorem writeCall_of_parse {finish : Span} {ts rest : List Token} {call : FilterCall}
    (hts : ∀ t ∈ ts, t.Shaped) (h : parseCall finish ts = .ok (call, rest)) :
    ∃ front, ts = front ++ rest ∧ WriteCall front call := by
  cases ts with
  | nil => cases h
  | cons t ts =>
      rw [parseCall] at h
      split at h
      · rename_i hkind
        cases hname : Filter.ofName? t.text with
        | none => simp [hname] at h
        | some filter =>
            have htext : t.text = filter.name := ofName?_eq_some_iff.1 hname
            cases hargs : parseColonArguments finish filter ts with
            | error e => simp [hname, hargs] at h
            | ok result =>
                obtain ⟨args, rest'⟩ := result
                simp only [hname, hargs] at h
                split at h
                · cases h
                  obtain ⟨rfl, rfl⟩ | ⟨separator, front, hcolon, rfl, hwrite⟩ :=
                    parseColonArguments_cases (fun t ht => hts t (by simp [ht])) hargs
                  · exact ⟨[t], rfl, .name hkind htext⟩
                  · exact ⟨t :: separator :: front, rfl, .arguments hkind htext hcolon hwrite⟩
                · cases h
      · cases h

theorem parseCall_of_write {finish : Span} {front rest : List Token} {call : FilterCall}
    (hts : ∀ t ∈ front, t.Shaped) (h : WriteCall front call)
    (hrest : ∀ t ∈ rest.head?, t.kind = .bar) :
    parseCall finish (front ++ rest) = .ok (call, rest) := by
  have hends : endsCall rest = true := by
    cases rest with
    | nil => rfl
    | cons t rest => simpa [endsCall] using hrest t (by simp)
  cases h with
  | @name t filter hkind hname =>
      have hargs : parseColonArguments finish filter rest = .ok ([], rest) := by
        cases rest with
        | nil => rfl
        | cons t rest => simp [parseColonArguments, hrest t (by simp)]
      simp [parseCall, hkind, hname, Filter.ofName?_name, hargs, hends]
  | @arguments t separator filter ts args hkind hname hcolon hwrite =>
      have hargs : parseArguments finish filter (ts ++ rest) = .ok (args, rest) :=
        parseArguments_of_write (fun t ht => hts t (by simp [ht])) hwrite
          fun t ht => by simp [hrest t ht]
      simp [parseCall, hkind, hname, Filter.ofName?_name, parseColonArguments, hcolon, hargs, hends]

theorem writeCalls_head {ts : List Token} {calls : List FilterCall} (h : WriteCalls ts calls) :
    ∀ t ∈ ts.head?, t.kind = .bar := by
  cases h with
  | nil => simp
  | cons bar _ _ => simpa using bar

theorem parseCalls_eq_ok_iff {finish : Span} {ts : List Token} (hts : ∀ t ∈ ts, t.Shaped)
    {calls : List FilterCall} : parseCalls finish ts = .ok calls ↔ WriteCalls ts calls := by
  constructor
  · intro h
    fun_induction parseCalls finish ts generalizing calls with
    | case1 =>
        cases h
        exact .nil
    | case2 | case3 | case5 => simp at h
    | case4 separator rest hbar call rest' hcall _ calls' hrest ih =>
        simp only [Except.ok.injEq] at h
        subst h
        obtain ⟨front, rfl, hwrite⟩ := writeCall_of_parse (fun t ht => hts t (by simp [ht])) hcall
        exact .cons hbar hwrite (ih (fun t ht => hts t (by simp [ht])) hrest)
  · intro h
    induction h with
    | nil => simp [parseCalls]
    | @cons separator ts us call calls hbar hcall hrest ih =>
        have hparse : parseCall finish (ts ++ us) = .ok (call, us) :=
          parseCall_of_write (fun t ht => hts t (by simp [ht])) hcall (writeCalls_head hrest)
        have hrec := ih fun t ht => hts t (by simp [ht])
        rw [List.cons_append, parseCalls, if_pos hbar]
        split
        · rename_i e he
          rw [hparse] at he
          cases he
        · rename_i call' us' he
          rw [hparse] at he
          cases he
          rw [hrec]

theorem shaped_of_mem_ofBody (body : String) (base : Nat) :
    ∀ t ∈ Token.ofBody body base, t.Shaped :=
  fun _ ht => shaped_of_mem_lexFrom ht

theorem writeInterpolation_of_parse {body : String} {bodySpan span : Span} {i : Interpolation}
    (h : parseInterpolation body bodySpan span = .ok i) :
    WriteInterpolation (Token.ofBody body bodySpan.start) i.path i.filters ∧ i.span = span := by
  have hshaped := shaped_of_mem_ofBody body bodySpan.start
  rw [parseInterpolation] at h
  cases htokens : Token.ofBody body bodySpan.start with
  | nil => simp [htokens] at h
  | cons t ts =>
      rw [htokens] at h hshaped
      cases hpath : parsePath (.point bodySpan.stop) (t :: ts) with
      | error e => simp [hpath] at h
      | ok result =>
          obtain ⟨path, rest⟩ := result
          cases hcalls : parseCalls (.point bodySpan.stop) rest with
          | error e => simp [hpath, hcalls] at h
          | ok calls =>
              simp only [hpath, hcalls, Except.ok.injEq] at h
              subst h
              obtain ⟨t', heq, hwrites⟩ := parsePath_eq_ok_iff.1 hpath
              cases heq
              have hrest := (parseCalls_eq_ok_iff fun t ht => hshaped t (by simp [ht])).1 hcalls
              exact ⟨.mk hwrites hrest, rfl⟩

theorem parseInterpolation_of_write {body : String} {bodySpan : Span} {path : Path}
    {calls : List FilterCall}
    (h : WriteInterpolation (Token.ofBody body bodySpan.start) path calls) (span : Span) :
    parseInterpolation body bodySpan span = .ok ⟨path, calls, span⟩ := by
  have hshaped := shaped_of_mem_ofBody body bodySpan.start
  rw [parseInterpolation]
  generalize Token.ofBody body bodySpan.start = tokens at h hshaped
  cases h with
  | @mk t ts _ _ hwrites hrest =>
      have hpath : parsePath (.point bodySpan.stop) (t :: ts) = .ok (path, ts) :=
        parsePath_eq_ok_iff.2 ⟨t, rfl, hwrites⟩
      have hcalls : parseCalls (.point bodySpan.stop) ts = .ok calls :=
        (parseCalls_eq_ok_iff fun t ht => hshaped t (by simp [ht])).2 hrest
      simp [hpath, hcalls]

/-- The parser accepts the token lists that write an interpolation, and no others, and returns
what they write. -/
theorem parseInterpolation_eq_ok_iff (body : String) (bodySpan span : Span) (i : Interpolation) :
    parseInterpolation body bodySpan span = .ok i ↔
      WriteInterpolation (Token.ofBody body bodySpan.start) i.path i.filters ∧ i.span = span := by
  constructor
  · exact writeInterpolation_of_parse
  · intro h
    obtain ⟨hwrite, hspan⟩ := h
    rw [← hspan]
    exact parseInterpolation_of_write hwrite i.span

end Syntax
end TextTemplate
