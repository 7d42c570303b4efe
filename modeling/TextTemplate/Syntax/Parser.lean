import TextTemplate.Double.Nearest
import TextTemplate.Syntax.Cursor
import TextTemplate.Syntax.Fragment
import TextTemplate.Template.Basic
import TextTemplate.Text.Alphanumeric

/-!
Parsing templates. The tokens of an interpolation are a path and filters, each behind a bar, and
a filter is a name, after which arguments may follow behind a colon and between commas. The
parsers below take tokens off a list and return what they have read with the tokens ahead;
`finish` is the empty span behind the body.
-/
namespace TextTemplate

namespace Syntax

def isNameChar (c : Char) : Bool :=
  Text.isAlphanumeric c || c == '_' || c == '$' || c == '-'

def isName (cs : List Char) : Bool :=
  !cs.isEmpty && cs.all isNameChar

/-- The pieces between the points of a text. -/
def splitPoints : List Char → List (List Char)
  | [] => [[]]
  | c :: cs =>
    if c = '.' then [] :: splitPoints cs
    else
      match splitPoints cs with
      | [] => [[c]]
      | piece :: pieces => (c :: piece) :: pieces

/-- The path that a bare token writes. -/
def path? (t : Token) : Option Path :=
  let pieces := splitPoints t.text.toList
  if t.kind = .bare ∧ pieces.all isName then Path.ofNames? (pieces.map String.ofList) t.span
  else none

def parsePath (finish : Span) : List Token → Except CompileError (Path × List Token)
  | [] => .error (Cursor.unexpected .propertyPath ⟨[], finish⟩)
  | t :: ts =>
    if t.kind = .bare ∨ t.kind = .quoted then
      match path? t with
      | some path => .ok (path, ts)
      | none => .error ⟨.invalidPath t.text, t.span⟩
    else .error (Cursor.unexpected .propertyPath ⟨t :: ts, finish⟩)

/-- A bare token is a number if all of it reads as a finite one, and a keyword otherwise. -/
def bareArgument (t : Token) : Argument :=
  match Double.ofText? t.text.toList with
  | some (.finite negative m) => .number (.finite negative m) t.span
  | _ => .keyword t.text t.span

/-- The argument that a filter is given by a token. -/
def argument (filter : Filter) (t : Token) (finish : Span) : Except CompileError Argument :=
  match t.kind with
  | .quoted => .ok (.str t.unquoted t.span)
  | .bare =>
    if filter.family?.isSome then .error ⟨.unquotedPattern filter t.text, t.span⟩
    else .ok (bareArgument t)
  | _ => .error (Cursor.unexpected .filterArgument ⟨[t], finish⟩)

/-- One argument, and another one after every comma. -/
def parseArguments (finish : Span) (filter : Filter) :
    List Token → Except CompileError (List Argument × List Token)
  | [] => .error (Cursor.unexpected .filterArgument ⟨[], finish⟩)
  | t :: ts =>
    match argument filter t finish with
    | .error e => .error e
    | .ok arg =>
      match ts with
      | [] => .ok ([arg], [])
      | sep :: rest =>
        if sep.kind = .comma then
          match parseArguments finish filter rest with
          | .error e => .error e
          | .ok (args, rest) => .ok (arg :: args, rest)
        else .ok ([arg], sep :: rest)

/-- The arguments behind a filter name, none if no colon follows. -/
def parseColonArguments (finish : Span) (filter : Filter) :
    List Token → Except CompileError (List Argument × List Token)
  | [] => .ok ([], [])
  | t :: ts => if t.kind = .colon then parseArguments finish filter ts else .ok ([], t :: ts)

/-- What a filter call ends with: a bar, which is left for the next one, or nothing. -/
def endsCall : List Token → Bool
  | [] => true
  | t :: _ => t.kind = .bar

/-- The error that no filter name follows a bar. -/
def missingName (c : Cursor) : CompileError :=
  if c.check .openQuote then ⟨.unterminatedQuote, c.span⟩ else ⟨.missingFilterName, c.span⟩

def parseCall (finish : Span) : List Token → Except CompileError (FilterCall × List Token)
  | [] => .error (missingName ⟨[], finish⟩)
  | t :: ts =>
    if t.kind = .bare then
      match Filter.ofName? t.text with
      | none => .error ⟨.unknownFilter t.text, t.span⟩
      | some filter =>
        match parseColonArguments finish filter ts with
        | .error e => .error e
        | .ok (args, rest) =>
          if endsCall rest then .ok (⟨filter, args, t.span⟩, rest)
          else .error (Cursor.unexpected .commaBarOrEnd ⟨rest, finish⟩)
    else .error (missingName ⟨t :: ts, finish⟩)

theorem length_parseArguments {finish : Span} {filter : Filter} {ts rest : List Token}
    {args : List Argument} (h : parseArguments finish filter ts = .ok (args, rest)) :
    rest.length ≤ ts.length := by
  fun_induction parseArguments finish filter ts generalizing args rest with
  | case1 | case2 | case4 => simp at h
  | case3 | case6 =>
    simp only [Except.ok.injEq, Prod.mk.injEq] at h
    simp [← h.2]
  | case5 t arg _ sep rest' _ args' rest'' hrec ih =>
    simp only [Except.ok.injEq, Prod.mk.injEq] at h
    have := ih hrec
    rw [← h.2]
    simp only [List.length_cons]
    omega

theorem length_parseColonArguments {finish : Span} {filter : Filter} {ts rest : List Token}
    {args : List Argument} (h : parseColonArguments finish filter ts = .ok (args, rest)) :
    rest.length ≤ ts.length := by
  unfold parseColonArguments at h
  split at h
  · simp_all
  · split at h
    · exact Nat.le_succ_of_le (length_parseArguments h)
    · simp only [Except.ok.injEq, Prod.mk.injEq] at h
      simp [← h.2]

theorem length_parseCall {finish : Span} {ts rest : List Token} {call : FilterCall}
    (h : parseCall finish ts = .ok (call, rest)) : rest.length ≤ ts.length := by
  unfold parseCall at h
  split at h
  · simp at h
  · split at h
    · split at h
      · simp at h
      · split at h
        · simp at h
        · rename_i hargs
          split at h
          · simp only [Except.ok.injEq, Prod.mk.injEq] at h
            rw [← h.2]
            exact Nat.le_succ_of_le (length_parseColonArguments hargs)
          · simp at h
    · simp at h

/-- Filter calls, each behind a bar. -/
def parseCalls (finish : Span) (ts : List Token) : Except CompileError (List FilterCall) :=
  match ts with
  | [] => .ok []
  | t :: rest =>
    if t.kind = .bar then
      match h : parseCall finish rest with
      | .error e => .error e
      | .ok (call, rest') =>
        have : rest'.length < (t :: rest).length := Nat.lt_succ_of_le (length_parseCall h)
        match parseCalls finish rest' with
        | .error e => .error e
        | .ok calls => .ok (call :: calls)
    else .error (Cursor.unexpected .barOrEnd ⟨t :: rest, finish⟩)
termination_by ts.length
decreasing_by assumption

/-- The body of one interpolation. Its braces are those that `span` covers. -/
def parseInterpolation (body : String) (bodySpan span : Span) :
    Except CompileError Interpolation :=
  match Token.ofBody body bodySpan.start with
  | [] => .error ⟨.emptyInterpolation, span⟩
  | t :: ts =>
    let finish := Span.point bodySpan.stop
    match parsePath finish (t :: ts) with
    | .error e => .error e
    | .ok (path, rest) =>
      match parseCalls finish rest with
      | .error e => .error e
      | .ok filters => .ok ⟨path, filters, span⟩

def parseFragment : Fragment → Except CompileError Segment
  | .literal text span => .ok (.literal text span)
  | .interpolation body bodySpan span =>
    (parseInterpolation body bodySpan span).map .interpolation

/-- The segments of the fragments up to the first fault, or that of the scan behind them. -/
def parseFragments (scanFault : Option CompileError) :
    List Fragment → Except CompileError (List Segment)
  | [] =>
    match scanFault with
    | some e => .error e
    | none => .ok []
  | f :: fs =>
    match parseFragment f with
    | .error e => .error e
    | .ok segment =>
      match parseFragments scanFault fs with
      | .error e => .error e
      | .ok segments => .ok (segment :: segments)

end Syntax

/-- The template of a source. Of several faults the first one in the source is reported. -/
def Template.parse (source : String) : Except CompileError Template :=
  let scan := Scan.ofSource source
  (Syntax.parseFragments scan.fault scan.fragments).map Template.mk

end TextTemplate
