import TextTemplate.Proofs.CanonicalTokens

/-!
The end of a canonical body. A body is closed by the first pair of braces, so that a keyword with a
closing brace at its end loses that brace to the pair behind it. No other part of an interpolation
can end in a brace.
-/
namespace TextTemplate
open Token Syntax

theorem Lexeme.unpaired_flatMap {lexemes : List Lexeme} (hcomplete : ∀ l ∈ lexemes, l.Complete)
    (hapart : lexemes.IsChain Apart) (h : ∀ l ∈ lexemes, Unpaired '\x7d' l.chars) :
    Unpaired '\x7d' (lexemes.flatMap (·.chars)) := by
  induction lexemes with
  | nil => exact unpaired_nil _
  | cons l lexemes ih =>
      rw [List.forall_mem_cons] at hcomplete h
      rw [List.flatMap_cons, unpaired_append]
      refine ⟨h.1, ih hcomplete.2 hapart.tail h.2, ?_⟩
      intro h
      obtain ⟨hlast, hhead⟩ := h
      cases lexemes with
      | nil => simp at hhead
      | cons m lexemes =>
          obtain ⟨c, cs, hchars, -, -⟩ := (hcomplete.2 m List.mem_cons_self).start
          have hm : m.chars.head? = some '\x7d' := by
            simpa [hchars] using hhead
          cases (List.isChain_cons_cons.1 hapart).1 with
          | inl hl => exact (hcomplete.1.not_brace hl).2 hlast
          | inr hkind => exact ((hcomplete.2 m List.mem_cons_self).not_brace hkind).1 hm

theorem Interpolation.Faithful.unpaired_bodyChars {i : Interpolation} (h : i.Faithful) :
    Unpaired '\x7d' i.bodyChars :=
  Lexeme.unpaired_flatMap h.complete i.isChain_lexemes h.unpaired_lexemes

/-- The last lexeme of a filter call. -/
def FilterCall.last (f : FilterCall) : Lexeme :=
  (f.args.getLast?.map (·.lexeme)).getD ⟨.bare, f.filter.name.toList⟩

def Interpolation.last (i : Interpolation) : Lexeme :=
  (i.filters.getLast?.map (·.last)).getD ⟨.bare, i.path.text.toList⟩

theorem FilterCall.getLast?_argumentLexemes (separator : Lexeme) (args : List Argument) :
    (argumentLexemes separator args).getLast? = args.getLast?.map (·.lexeme) := by
  induction args generalizing separator with
  | nil => rfl
  | cons a args ih =>
      rw [argumentLexemes, List.getLast?_cons, List.getLast?_cons, List.getLast?_cons, ih]
      cases args.getLast? <;> rfl

theorem FilterCall.getLast?_lexemes (f : FilterCall) : f.lexemes.getLast? = some f.last := by
  rw [lexemes, List.getLast?_cons, getLast?_argumentLexemes]
  rfl

theorem Interpolation.getLast?_lexemes (i : Interpolation) :
    i.lexemes.getLast? = some i.last := by
  have hfilters : ∀ filters : List FilterCall,
      (filters.flatMap fun f => Lexeme.mk .bar ['|'] :: f.lexemes).getLast? =
        filters.getLast?.map (·.last) := by
    intro filters
    induction filters with
    | nil => rfl
    | cons f filters ih =>
        rw [List.flatMap_cons, List.getLast?_append, ih, List.getLast?_cons,
          FilterCall.getLast?_lexemes, List.getLast?_cons]
        cases filters.getLast? <;> rfl
  rw [lexemes, List.getLast?_cons, hfilters]
  rfl

def Argument.keyword? : Argument → Option String
  | .keyword word _ => some word
  | _ => none

/-- The keyword that is the last argument of the last filter. -/
def Interpolation.lastKeyword? (i : Interpolation) : Option String :=
  (i.filters.getLast?.bind (·.args.getLast?)).bind (·.keyword?)

/-- The interpolation ends in a keyword with a closing brace at its end. -/
def Interpolation.EndsInBrace (i : Interpolation) : Prop :=
  ∃ word ∈ i.lastKeyword?, word.toList.getLast? = some '\x7d'

instance (i : Interpolation) : Decidable i.EndsInBrace :=
  inferInstanceAs (Decidable (∃ word ∈ i.lastKeyword?, word.toList.getLast? = some '\x7d'))

theorem Interpolation.lastKeyword?_eq_some_iff {i : Interpolation} {word : String} :
    i.lastKeyword? = some word ↔
      ∃ f span, i.filters.getLast? = some f ∧ f.args.getLast? = some (.keyword word span) := by
  simp only [lastKeyword?, Option.bind_eq_some_iff]
  constructor
  · intro h
    obtain ⟨a, ⟨f, hf, ha⟩, hword⟩ := h
    cases a with
    | str value span | number x span => cases hword
    | keyword other span =>
        cases hword
        exact ⟨f, span, hf, ha⟩
  · intro h
    obtain ⟨f, span, hf, ha⟩ := h
    exact ⟨_, ⟨f, hf, ha⟩, rfl⟩

theorem Interpolation.last_of_lastKeyword? {i : Interpolation} {word : String}
    (h : i.lastKeyword? = some word) : i.last = ⟨.bare, word.toList⟩ := by
  obtain ⟨f, span, hf, ha⟩ := lastKeyword?_eq_some_iff.1 h
  simp [last, FilterCall.last, hf, ha, Argument.lexeme]

theorem Interpolation.Faithful.endsInBrace_iff {i : Interpolation} (h : i.Faithful) :
    i.EndsInBrace ↔ i.last.chars.getLast? = some '\x7d' := by
  constructor
  · intro h
    obtain ⟨word, hends, hword⟩ := h
    rw [last_of_lastKeyword? hends]
    exact hword
  · intro hlast
    rw [last] at hlast
    cases hf : i.filters.getLast? with
    | none =>
        rw [hf] at hlast
        exact absurd (List.mem_of_getLast? hlast) h.brace_not_mem_path
    | some f =>
        simp only [hf, Option.map_some, Option.getD_some, FilterCall.last] at hlast
        cases ha : f.args.getLast? with
        | none =>
            rw [ha] at hlast
            exact absurd (List.mem_of_getLast? hlast) f.filter.shape_name.2
        | some a =>
            have hfaithful := h.args f (List.mem_of_getLast? hf) a (List.mem_of_getLast? ha)
            simp only [ha, Option.map_some, Option.getD_some] at hlast
            cases a with
            | str value span =>
                have hkind : (Argument.lexeme (.str value span)).kind ≠ .bare := by
                  simp [Argument.lexeme]
                exact absurd hlast (hfaithful.complete.not_brace hkind).2
            | number x span =>
                obtain ⟨-, -, hbrace⟩ := Double.shape_plainChars hfaithful.2
                exact absurd (List.mem_of_getLast? hlast) hbrace
            | keyword word span =>
                exact ⟨word, lastKeyword?_eq_some_iff.2 ⟨f, span, hf, ha⟩, hlast⟩

theorem Interpolation.exists_lexemes_eq (i : Interpolation) :
    ∃ others, i.lexemes = others ++ [i.last] := by
  obtain ⟨others, h⟩ := List.getLast?_eq_some_iff.1 i.getLast?_lexemes
  exact ⟨others, h⟩

theorem Interpolation.Faithful.getLast?_bodyChars {i : Interpolation} (h : i.Faithful) :
    i.bodyChars.getLast? = i.last.chars.getLast? := by
  obtain ⟨others, hlexemes⟩ := i.exists_lexemes_eq
  have hlast : i.last ∈ i.lexemes := by simp [hlexemes]
  obtain ⟨c, cs, hchars, -, -⟩ := (h.complete _ hlast).start
  rw [bodyChars, hlexemes, List.flatMap_append, List.getLast?_append, List.flatMap_singleton,
    hchars, List.getLast?_cons]
  rfl

/-- A body that does not end in a keyword of that kind is closed by the pair behind it. -/
theorem Interpolation.Faithful.unpaired_closed {i : Interpolation} (h : i.Faithful)
    (hends : ¬ i.EndsInBrace) : Unpaired '\x7d' (i.bodyChars ++ ['\x7d']) := by
  have hbrace : Unpaired '\x7d' ['\x7d'] := by simp [Unpaired, List.infix_cons_iff]
  rw [h.endsInBrace_iff, ← h.getLast?_bodyChars] at hends
  exact unpaired_append.2 ⟨h.unpaired_bodyChars, hbrace, fun hlast => hends hlast.1⟩

theorem Interpolation.lastKeyword?_unplaced (i : Interpolation) :
    i.unplaced.lastKeyword? = i.lastKeyword? := by
  simp only [lastKeyword?, unplaced, List.getLast?_map]
  cases i.filters.getLast? with
  | none => rfl
  | some f =>
      simp only [Option.map_some, Option.bind_some, FilterCall.unplaced, List.getLast?_map]
      cases f.args.getLast? with
      | none => rfl
      | some a => cases a <;> rfl

theorem Token.getLast?_of_writeArguments {filter : Filter} {ts : List Token} {args : List Argument}
    (h : WriteArguments filter ts args) {word : String} {span : Span}
    (hlast : args.getLast? = some (.keyword word span)) :
    (ts.map (·.lexeme)).getLast? = some ⟨.bare, word.toList⟩ := by
  induction h with
  | @single t a h =>
      obtain rfl : a = .keyword word span := by simpa using hlast
      cases h with
      | keyword kind noPattern noNumber => simp [lexeme, kind]
  | @cons t separator a ts args h comma rest ih =>
      cases args with
      | nil => cases rest
      | cons b args =>
          rw [List.getLast?_cons_cons] at hlast
          cases ts with
          | nil => cases rest
          | cons u ts =>
              rw [List.map_cons, List.map_cons, List.map_cons, List.getLast?_cons_cons,
                List.getLast?_cons_cons]
              exact ih hlast

theorem Token.getLast?_of_writeCall {ts : List Token} {f : FilterCall} (h : WriteCall ts f)
    {word : String} {span : Span} (ha : f.args.getLast? = some (.keyword word span)) :
    (ts.map (·.lexeme)).getLast? = some ⟨.bare, word.toList⟩ := by
  cases h with
  | name kind name => cases ha
  | arguments kind name colon rest =>
      have hlast := getLast?_of_writeArguments rest ha
      rw [List.map_cons, List.map_cons, List.getLast?_cons, List.getLast?_cons, hlast]
      rfl

theorem Token.getLast?_of_writeCalls {ts : List Token} {calls : List FilterCall}
    (h : WriteCalls ts calls) {f : FilterCall} {word : String} {span : Span}
    (hf : calls.getLast? = some f) (ha : f.args.getLast? = some (.keyword word span)) :
    (ts.map (·.lexeme)).getLast? = some ⟨.bare, word.toList⟩ := by
  induction h with
  | nil => cases hf
  | @cons separator ts us call calls bar first rest ih =>
      rw [List.map_append, List.getLast?_append]
      cases calls with
      | nil =>
          cases rest
          obtain rfl : call = f := by simpa using hf
          have hlast := getLast?_of_writeCall first ha
          rw [List.map_cons, List.getLast?_cons, hlast]
          rfl
      | cons other calls =>
          rw [List.getLast?_cons_cons] at hf
          rw [ih hf]
          rfl

/-- The last token of a body that is parsed as an interpolation with a keyword at its end is that
keyword. -/
theorem Interpolation.getLast?_ofBody {i : Interpolation} {word : String}
    (h : i.lastKeyword? = some word) {body : String} {bodySpan span : Span}
    (hparse : parseInterpolation body bodySpan span = .ok i) :
    ((ofBody body bodySpan.start).map (·.lexeme)).getLast? = some ⟨.bare, word.toList⟩ := by
  obtain ⟨f, argSpan, hf, ha⟩ := lastKeyword?_eq_some_iff.1 h
  obtain ⟨hwrite, -⟩ := writeInterpolation_of_parse hparse
  generalize ofBody body bodySpan.start = ts at hwrite
  cases hwrite with
  | mk first rest =>
      rw [List.map_cons, List.getLast?_cons, Token.getLast?_of_writeCalls rest hf ha]
      rfl

/-- A body without the brace at its end is lexed as it was, but for the last token, which is
shorter by that brace or is not there any more. -/
theorem Interpolation.Faithful.lexemes_shorter {i : Interpolation} (h : i.Faithful)
    {others : List Lexeme} {word : List Char}
    (hlexemes : i.lexemes = others ++ [⟨.bare, word ++ ['\x7d']⟩]) (base : Nat) :
    ((ofBody (String.ofList (others.flatMap (·.chars) ++ word)) base).map (·.lexeme)).getLast? ≠
      some ⟨.bare, word ++ ['\x7d']⟩ := by
  have hcomplete := h.complete
  have hchain := i.isChain_lexemes
  rw [hlexemes] at hcomplete hchain
  rw [ofBody, String.toList_ofList]
  obtain ⟨hothers, -, hapart⟩ := List.isChain_append.1 hchain
  have hbefore : ∀ l ∈ others, l.Complete := fun l hl => hcomplete l (by simp [hl])
  cases word with
  | nil =>
      -- Nothing is left of the keyword, and the token before it is no bare one.
      rw [List.append_nil, Lexeme.lexFrom_flatMap hbefore hothers]
      intro hlast
      exact (hapart _ hlast _ rfl).elim (fun hkind => hkind rfl) fun hkind => hkind rfl
  | cons c word =>
      let shorter : List Lexeme := others ++ [⟨.bare, c :: word⟩]
      have hbare := (hcomplete ⟨.bare, c :: word ++ ['\x7d']⟩ (by simp)).shape.2
      have hword : Lexeme.Complete ⟨.bare, c :: word⟩ :=
        ⟨⟨by simp, fun d hd => hbare d (List.mem_append_left _ hd)⟩, by simp⟩
      have hall : ∀ l ∈ shorter, l.Complete := by
        intro l hl
        cases List.mem_append.1 hl with
        | inl hl => exact hbefore l hl
        | inr hl => exact List.mem_singleton.1 hl ▸ hword
      have hchain : shorter.IsChain Lexeme.Apart := by
        refine List.isChain_append.2 ⟨hothers, .singleton _, fun l hl m hm => ?_⟩
        obtain rfl : m = ⟨.bare, c :: word⟩ := by simpa using hm.symm
        exact .inl ((hapart l hl _ rfl).resolve_right (not_not_intro rfl))
      have hflat : others.flatMap (·.chars) ++ c :: word = shorter.flatMap (·.chars) := by
        simp [shorter]
      rw [hflat, Lexeme.lexFrom_flatMap hall hchain, List.getLast?_concat]
      simp

/-- Where an interpolation ends in such a keyword, its canonical body is closed one brace early, and
what is left of it is not parsed as that interpolation. -/
theorem Interpolation.Faithful.shorter_body {i : Interpolation} (h : i.Faithful)
    (hends : i.EndsInBrace) :
    ∃ body, i.bodyChars = body ++ ['\x7d'] ∧ Unpaired '\x7d' (body ++ ['\x7d']) ∧
      ∀ bodySpan span j, parseInterpolation (String.ofList body) bodySpan span = .ok j →
        j.unplaced ≠ i.unplaced := by
  obtain ⟨word, hword, hlast⟩ := hends
  obtain ⟨shorter, hshorter⟩ := List.getLast?_eq_some_iff.1 hlast
  obtain ⟨others, hlexemes⟩ := i.exists_lexemes_eq
  rw [last_of_lastKeyword? hword, hshorter] at hlexemes
  have hbody : i.bodyChars = others.flatMap (·.chars) ++ shorter ++ ['\x7d'] := by
    simp [bodyChars, hlexemes]
  refine ⟨others.flatMap (·.chars) ++ shorter, hbody, ?_, fun bodySpan span j hparse heq => ?_⟩
  · rw [← hbody]
    exact h.unpaired_bodyChars
  · have hj : j.lastKeyword? = some word := by
      rw [← j.lastKeyword?_unplaced, heq, i.lastKeyword?_unplaced]
      exact hword
    have hkeyword := getLast?_ofBody hj hparse
    rw [hshorter] at hkeyword
    exact h.lexemes_shorter hlexemes bodySpan.start hkeyword

end TextTemplate
