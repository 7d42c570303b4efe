import TextTemplate.Proofs.InterpolationGrammar
import TextTemplate.Proofs.Lexemes
import TextTemplate.Proofs.NumberReadBack
import TextTemplate.Proofs.SourceGrammar
import TextTemplate.Proofs.SpanErasure

/-!
Canonical tokens of an interpolation. What parsing a body gives is faithful: each part of it can be
written as a token that reads as that part again, and so the tokens of the canonical body write the
interpolation that they are written from.
-/
namespace TextTemplate
open Token Syntax

def Argument.lexeme : Argument → Lexeme
  | .str value _ => ⟨.quoted, Argument.quote value :: value.toList ++ [Argument.quote value]⟩
  | .number x _ => ⟨.bare, x.plainChars⟩
  | .keyword value _ => ⟨.bare, value.toList⟩

def FilterCall.argumentLexemes (separator : Lexeme) : List Argument → List Lexeme
  | [] => []
  | a :: args => separator :: a.lexeme :: argumentLexemes ⟨.comma, [',']⟩ args

def FilterCall.lexemes (f : FilterCall) : List Lexeme :=
  ⟨.bare, f.filter.name.toList⟩ :: argumentLexemes ⟨.colon, [':']⟩ f.args

def Interpolation.lexemes (i : Interpolation) : List Lexeme :=
  ⟨.bare, i.path.text.toList⟩ :: i.filters.flatMap fun f => ⟨.bar, ['|']⟩ :: f.lexemes

/-- What stands between the braces of the canonical text. -/
def Interpolation.bodyChars (i : Interpolation) : List Char :=
  i.lexemes.flatMap (·.chars)

@[simp]
theorem Argument.chars_lexeme (a : Argument) : a.lexeme.chars = a.chars := by
  cases a <;> rfl

theorem FilterCall.flatMap_argumentLexemes (kind : TokenKind) (separator : Char)
    (args : List Argument) :
    (argumentLexemes ⟨kind, [separator]⟩ args).flatMap (·.chars) =
      argumentChars separator args := by
  induction args generalizing kind separator with
  | nil => rfl
  | cons a args ih =>
      simp only [argumentLexemes, argumentChars, List.flatMap_cons, ih, Argument.chars_lexeme]
      rfl

theorem FilterCall.flatMap_lexemes (f : FilterCall) : f.lexemes.flatMap (·.chars) = f.chars := by
  rw [lexemes, List.flatMap_cons, flatMap_argumentLexemes]
  rfl

theorem Interpolation.chars_eq (i : Interpolation) :
    i.chars = '\x7b' :: '\x7b' :: (i.bodyChars ++ ['\x7d', '\x7d']) := by
  have hfilters : (i.filters.flatMap fun f => ⟨.bar, ['|']⟩ :: f.lexemes).flatMap
      (fun l : Lexeme => l.chars) = i.filters.flatMap fun f => '|' :: f.chars := by
    rw [List.flatMap_assoc]
    congr 1
    funext f
    rw [List.flatMap_cons, FilterCall.flatMap_lexemes]
    rfl
  simp only [chars, bodyChars, lexemes, List.flatMap_cons, hfilters]
  simp

/-- What makes an argument readable from its canonical token. A closing pair of braces would end
the body that the argument stands in. -/
def Argument.Faithful (filter : Filter) : Argument → Prop
  | .str value _ => Argument.quote value ∉ value.toList ∧ Unpaired '\x7d' value.toList
  | .number x _ => (filter ≠ .number ∧ filter ≠ .time) ∧ x.isFinite = true
  | .keyword value _ => (filter ≠ .number ∧ filter ≠ .time) ∧ Shape .bare value.toList ∧
      (∀ x, Double.ofText? value.toList = some x → x.isFinite = false) ∧
      Unpaired '\x7d' value.toList

structure Interpolation.Faithful (i : Interpolation) : Prop where
  names : ∀ name ∈ i.path.names, IsName name
  path : Shape .bare i.path.text.toList
  args : ∀ f ∈ i.filters, ∀ a ∈ f.args, a.Faithful f.filter

theorem isQuote_quote (value : String) : isQuote (Argument.quote value) = true := by
  rw [Argument.quote]
  split <;> decide

/-- If any quote may surround a text, then the one chosen for it may. -/
theorem quote_not_mem {value : String} {quote : Char} (hquote : isQuote quote = true)
    (h : quote ∉ value.toList) : Argument.quote value ∉ value.toList := by
  rw [Argument.quote]
  split
  · rename_i hcontains
    have hmem : '"' ∈ value.toList := by simpa using hcontains
    cases isQuote_iff.1 hquote with
    | inl heq => exact heq ▸ h
    | inr heq => exact absurd hmem (heq ▸ h)
  · rename_i hcontains
    simpa using hcontains

theorem Argument.faithful_of_writes {filter : Filter} {t : Token} {a : Argument}
    (h : t.WritesArgument filter a) (ht : t.Shaped) (hpair : Unpaired '\x7d' t.text.toList) :
    a.Faithful filter := by
  cases h with
  | @str kind quote value text =>
      obtain ⟨quote', value', hquote, hmem, htext⟩ : Shape .quoted t.text.toList := kind ▸ ht
      rw [text] at htext hpair
      obtain ⟨rfl, rfl⟩ : quote = quote' ∧ value = value' := by
        simpa using (List.append_inj' htext rfl).1
      have hwithin : value <:+: quote :: value ++ [quote] := ⟨[quote], [quote], rfl⟩
      refine ⟨quote_not_mem hquote ?_, ?_⟩
      · rwa [String.toList_ofList]
      · rw [String.toList_ofList]
        exact unpaired_of_infix hpair hwithin
  | number kind noPattern reads finite => exact ⟨noPattern, finite⟩
  | keyword kind noPattern noNumber => exact ⟨noPattern, kind ▸ ht, noNumber, hpair⟩

theorem Argument.faithful_of_writeArguments {filter : Filter} {ts : List Token}
    {args : List Argument} (h : WriteArguments filter ts args)
    (hts : ∀ t ∈ ts, t.Shaped ∧ Unpaired '\x7d' t.text.toList) :
    ∀ a ∈ args, a.Faithful filter := by
  induction h with
  | @single t a h =>
      obtain ⟨ht, hpair⟩ := hts t List.mem_cons_self
      simpa using faithful_of_writes h ht hpair
  | @cons t separator a ts args h comma rest ih =>
      obtain ⟨ht, hpair⟩ := hts t List.mem_cons_self
      rw [List.forall_mem_cons]
      exact ⟨faithful_of_writes h ht hpair, ih fun u hu => hts u (by simp [hu])⟩

theorem FilterCall.faithful_of_writeCalls {ts : List Token} {calls : List FilterCall}
    (h : WriteCalls ts calls) (hts : ∀ t ∈ ts, t.Shaped ∧ Unpaired '\x7d' t.text.toList) :
    ∀ f ∈ calls, ∀ a ∈ f.args, a.Faithful f.filter := by
  induction h with
  | nil => simp
  | @cons separator ts us call calls bar first rest ih =>
      rw [List.forall_mem_cons]
      refine ⟨?_, ih fun u hu => hts u (by simp [hu])⟩
      cases first with
      | name kind name => simp
      | arguments kind name colon rest =>
          exact Argument.faithful_of_writeArguments rest fun u hu => hts u (by simp [hu])

/-- What parsing a body without a pair of closing braces gives is faithful. -/
theorem Interpolation.faithful_of_parse {body : String} {bodySpan span : Span}
    {i : Interpolation} (h : parseInterpolation body bodySpan span = .ok i)
    (hpair : Unpaired '\x7d' body.toList) : i.Faithful := by
  obtain ⟨hwrite, -⟩ := writeInterpolation_of_parse h
  have hts : ∀ t ∈ ofBody body bodySpan.start, t.Shaped ∧ Unpaired '\x7d' t.text.toList :=
    fun t ht => ⟨shaped_of_mem_lexFrom ht, unpaired_of_infix hpair (infix_of_mem_lexFrom ht)⟩
  generalize ofBody body bodySpan.start = ts at hwrite hts
  cases hwrite with
  | @mk t ts _ _ first rest =>
      rw [List.forall_mem_cons] at hts
      refine ⟨first.names, ?_, FilterCall.faithful_of_writeCalls rest hts.2⟩
      have hshape : Shape t.kind t.text.toList := hts.1.1
      rw [first.kind, first.text] at hshape
      exact hshape

theorem Argument.Faithful.complete {filter : Filter} {a : Argument} (h : a.Faithful filter) :
    a.lexeme.Complete := by
  cases a with
  | str value span => exact ⟨⟨_, _, isQuote_quote value, h.1, rfl⟩, by simp [lexeme]⟩
  | number x span =>
      obtain ⟨hne, hbare, -⟩ := Double.shape_plainChars h.2
      exact ⟨⟨hne, hbare⟩, by simp [lexeme]⟩
  | keyword value span => exact ⟨h.2.1, by simp [lexeme]⟩

theorem Argument.Faithful.unpaired {filter : Filter} {a : Argument} (h : a.Faithful filter) :
    Unpaired '\x7d' a.lexeme.chars := by
  cases a with
  | str value span =>
      have hne : Argument.quote value ≠ '\x7d' := by
        intro heq
        have hquote := isQuote_quote value
        rw [heq] at hquote
        exact absurd hquote (by decide)
      have hlast : Unpaired '\x7d' [Argument.quote value] :=
        unpaired_of_not_mem (by simpa using hne.symm)
      simp [lexeme, unpaired_cons, unpaired_append, h.2, hlast, hne]
  | number x span =>
      obtain ⟨-, -, hbrace⟩ := Double.shape_plainChars h.2
      exact unpaired_of_not_mem hbrace
  | keyword value span => exact h.2.2.2

theorem Filter.shape_name (filter : Filter) :
    Shape .bare filter.name.toList ∧ '\x7d' ∉ filter.name.toList := by
  have hbare : filter.name.toList.all isBare = true := by cases filter <;> decide
  refine ⟨⟨?_, List.all_eq_true.1 hbare⟩, ?_⟩ <;> cases filter <;> decide

theorem Lexeme.complete_separator {c : Char} {kind : TokenKind} (h : separator? c = some kind) :
    Complete ⟨kind, [c]⟩ := by
  obtain ⟨rfl, rfl⟩ | ⟨rfl, rfl⟩ | ⟨rfl, rfl⟩ := separator?_cases h <;>
    exact ⟨⟨_, h, rfl⟩, by decide⟩

/-- What holds of a separator and of the lexemes of the arguments holds of all that is written. -/
theorem FilterCall.forall_mem_argumentLexemes {P : Lexeme → Prop} {separator : Lexeme}
    {args : List Argument} (hs : P separator) (hcomma : P ⟨.comma, [',']⟩)
    (h : ∀ a ∈ args, P a.lexeme) : ∀ l ∈ argumentLexemes separator args, P l := by
  induction args generalizing separator with
  | nil => simp [argumentLexemes]
  | cons a args ih =>
      rw [List.forall_mem_cons] at h
      simp only [argumentLexemes, List.forall_mem_cons]
      exact ⟨hs, h.1, ih hcomma h.2⟩

/-- A property of all lexemes of a faithful interpolation is one of its path, of the separators,
of the filter names and of faithful arguments. -/
theorem Interpolation.Faithful.forall_mem_lexemes {i : Interpolation} (h : i.Faithful)
    {P : Lexeme → Prop} (hpath : P ⟨.bare, i.path.text.toList⟩)
    (hseparators : P ⟨.bar, ['|']⟩ ∧ P ⟨.colon, [':']⟩ ∧ P ⟨.comma, [',']⟩)
    (hname : ∀ filter : Filter, P ⟨.bare, filter.name.toList⟩)
    (harg : ∀ (filter : Filter) (a : Argument), a.Faithful filter → P a.lexeme) :
    ∀ l ∈ i.lexemes, P l := by
  obtain ⟨hbar, hcolon, hcomma⟩ := hseparators
  simp only [lexemes, List.forall_mem_cons]
  refine ⟨hpath, fun l hl => ?_⟩
  obtain ⟨f, hf, hl⟩ := List.mem_flatMap.1 hl
  have hlexemes : ∀ l ∈ f.lexemes, P l := by
    simp only [FilterCall.lexemes, List.forall_mem_cons]
    exact ⟨hname f.filter, FilterCall.forall_mem_argumentLexemes hcolon hcomma
      fun a ha => harg f.filter a (h.args f hf a ha)⟩
  cases List.mem_cons.1 hl with
  | inl heq =>
      rw [heq]
      exact hbar
  | inr hl => exact hlexemes l hl

theorem Interpolation.Faithful.complete {i : Interpolation} (h : i.Faithful) :
    ∀ l ∈ i.lexemes, l.Complete :=
  h.forall_mem_lexemes ⟨h.path, by simp⟩
    ⟨Lexeme.complete_separator rfl, Lexeme.complete_separator rfl, Lexeme.complete_separator rfl⟩
    (fun filter => ⟨filter.shape_name.1, by simp⟩) fun _ _ ha => ha.complete

theorem Interpolation.Faithful.brace_not_mem_path {i : Interpolation} (h : i.Faithful) :
    '\x7d' ∉ i.path.text.toList := by
  rw [Path.text, String.toList_intercalate]
  apply not_mem_intercalate (by decide)
  intro item hitem hmem
  obtain ⟨name, hname, rfl⟩ := List.mem_map.1 hitem
  exact absurd ((h.names name hname).2 _ hmem) (by decide +kernel)

theorem Interpolation.Faithful.unpaired_lexemes {i : Interpolation} (h : i.Faithful) :
    ∀ l ∈ i.lexemes, Unpaired '\x7d' l.chars :=
  h.forall_mem_lexemes (unpaired_of_not_mem h.brace_not_mem_path)
    ⟨unpaired_of_not_mem (by decide), unpaired_of_not_mem (by decide),
      unpaired_of_not_mem (by decide)⟩
    (fun filter => unpaired_of_not_mem filter.shape_name.2) fun _ _ ha => ha.unpaired

theorem FilterCall.isChain_argumentLexemes (l : Lexeme) {separator : Lexeme}
    (hs : separator.kind ≠ .bare) (args : List Argument) :
    (l :: argumentLexemes separator args).IsChain Lexeme.Apart := by
  induction args generalizing l separator with
  | nil => simp [argumentLexemes]
  | cons a args ih =>
      simp only [argumentLexemes, List.isChain_cons_cons]
      exact ⟨.inr hs, .inl hs, ih a.lexeme (by decide)⟩

/-- No two bare lexemes of an interpolation meet. -/
theorem Interpolation.isChain_lexemes (i : Interpolation) :
    i.lexemes.IsChain Lexeme.Apart := by
  obtain ⟨path, filters, span⟩ := i
  simp only [lexemes]
  generalize Lexeme.mk .bare path.text.toList = first
  have hhead : ∀ (filters : List FilterCall),
      ∀ m ∈ (filters.flatMap fun f => Lexeme.mk .bar ['|'] :: f.lexemes).head?, m.kind ≠ .bare := by
    intro filters m hm
    cases filters with
    | nil => simp at hm
    | cons f filters =>
        simp only [List.flatMap_cons, List.cons_append, List.head?_cons, Option.mem_some_iff] at hm
        simp [← hm]
  rw [List.isChain_cons]
  refine ⟨fun m hm => .inr (hhead filters m hm), ?_⟩
  induction filters with
  | nil => simp
  | cons f filters ih =>
      rw [List.flatMap_cons, List.isChain_append]
      refine ⟨?_, ih, fun l _ m hm => .inr (hhead filters m hm)⟩
      rw [FilterCall.lexemes, List.isChain_cons_cons]
      exact ⟨.inl (by decide), FilterCall.isChain_argumentLexemes _ (by decide) _⟩

/-- The tokens of the canonical body are the lexemes that it was made of. -/
theorem Interpolation.Faithful.lexemes_ofBody {i : Interpolation} (h : i.Faithful) (base : Nat) :
    (ofBody (String.ofList i.bodyChars) base).map (·.lexeme) = i.lexemes := by
  rw [ofBody, String.toList_ofList]
  exact Lexeme.lexFrom_flatMap h.complete i.isChain_lexemes base 0

theorem Argument.Faithful.writes {filter : Filter} {a : Argument} (h : a.Faithful filter)
    {t : Token} (ht : t.lexeme = a.lexeme) :
    ∃ b, t.WritesArgument filter b ∧ b.unplaced = a.unplaced := by
  have hkind : t.kind = a.lexeme.kind := congrArg Lexeme.kind ht
  have htext : t.text.toList = a.lexeme.chars := congrArg Lexeme.chars ht
  cases a with
  | str value span =>
      refine ⟨_, .str hkind htext, ?_⟩
      simp [unplaced]
  | number x span =>
      refine ⟨_, .number hkind h.1 ?_ h.2, rfl⟩
      rw [htext]
      exact Double.ofText?_plainChars h.2
  | keyword value span =>
      have hvalue : t.text = value := String.toList_inj.1 htext
      refine ⟨_, .keyword hkind h.1 ?_, by rw [hvalue]; rfl⟩
      rw [htext]
      exact h.2.2.1

theorem FilterCall.writeArguments_of_lexemes {filter : Filter} {separator : Lexeme} {a : Argument}
    {args : List Argument} (h : ∀ b ∈ a :: args, b.Faithful filter) {ts : List Token}
    (hts : ts.map (·.lexeme) = argumentLexemes separator (a :: args)) :
    ∃ t us bs, ts = t :: us ∧ t.lexeme = separator ∧ WriteArguments filter us bs ∧
      bs.map (·.unplaced) = (a :: args).map (·.unplaced) := by
  induction args generalizing separator a ts with
  | nil =>
      obtain ⟨t, us, rfl, ht, hus⟩ := List.map_eq_cons_iff.1 hts
      obtain ⟨u, rest, rfl, hu, hrest⟩ := List.map_eq_cons_iff.1 hus
      obtain rfl := List.map_eq_nil_iff.1 hrest
      obtain ⟨b, hb, heq⟩ := (h a List.mem_cons_self).writes hu
      exact ⟨t, [u], [b], rfl, ht, .single hb, by simp [heq]⟩
  | cons next args ih =>
      obtain ⟨t, us, rfl, ht, hus⟩ := List.map_eq_cons_iff.1 hts
      obtain ⟨u, rest, rfl, hu, hrest⟩ := List.map_eq_cons_iff.1 hus
      obtain ⟨b, hb, heq⟩ := (h a List.mem_cons_self).writes hu
      obtain ⟨v, vs, bs, rfl, hv, hwrite, hbs⟩ :=
        ih (fun b hb => h b (List.mem_cons_of_mem _ hb)) hrest
      have hcomma : v.kind = .comma := congrArg Lexeme.kind hv
      exact ⟨t, u :: v :: vs, b :: bs, rfl, ht, .cons hb hcomma hwrite, by simp [heq, hbs]⟩

theorem FilterCall.writeCall_of_lexemes {f : FilterCall} (h : ∀ a ∈ f.args, a.Faithful f.filter)
    {ts : List Token} (hts : ts.map (·.lexeme) = f.lexemes) :
    ∃ g, WriteCall ts g ∧ g.unplaced = f.unplaced := by
  obtain ⟨t, us, rfl, ht, hus⟩ := List.map_eq_cons_iff.1 hts
  have hkind : t.kind = .bare := congrArg Lexeme.kind ht
  have hname : t.text = f.filter.name := String.toList_inj.1 (congrArg Lexeme.chars ht)
  obtain ⟨filter, args, span⟩ := f
  cases args with
  | nil =>
      obtain rfl := List.map_eq_nil_iff.1 hus
      exact ⟨_, .name hkind hname, rfl⟩
  | cons a args =>
      obtain ⟨u, vs, bs, rfl, hu, hwrite, hbs⟩ := writeArguments_of_lexemes h hus
      have hcolon : u.kind = .colon := congrArg Lexeme.kind hu
      refine ⟨_, .arguments hkind hname hcolon hwrite, ?_⟩
      simp only [unplaced, hbs]

theorem FilterCall.writeCalls_of_lexemes {calls : List FilterCall}
    (h : ∀ f ∈ calls, ∀ a ∈ f.args, a.Faithful f.filter) {ts : List Token}
    (hts : ts.map (·.lexeme) = calls.flatMap fun f => ⟨.bar, ['|']⟩ :: f.lexemes) :
    ∃ others, WriteCalls ts others ∧ others.map (·.unplaced) = calls.map (·.unplaced) := by
  induction calls generalizing ts with
  | nil =>
      obtain rfl := List.map_eq_nil_iff.1 hts
      exact ⟨[], .nil, rfl⟩
  | cons f calls ih =>
      rw [List.forall_mem_cons] at h
      obtain ⟨t, us, rfl, ht, hus⟩ := List.map_eq_cons_iff.1 hts
      obtain ⟨front, rest, rfl, hfront, hrest⟩ := List.map_eq_append_iff.1 hus
      obtain ⟨g, hg, hgf⟩ := writeCall_of_lexemes h.1 hfront
      obtain ⟨others, hothers, hmap⟩ := ih h.2 hrest
      have hbar : t.kind = .bar := congrArg Lexeme.kind ht
      exact ⟨g :: others, .cons hbar hg hothers, by simp [hgf, hmap]⟩

/-- The canonical body of a faithful interpolation is parsed as that interpolation, wherever it
stands. -/
theorem Interpolation.Faithful.parse_bodyChars {i : Interpolation} (h : i.Faithful)
    (bodySpan span : Span) :
    ∃ j, parseInterpolation (String.ofList i.bodyChars) bodySpan span = .ok j ∧
      j.unplaced = i.unplaced := by
  obtain ⟨t, ts, hts, ht, hrest⟩ := List.map_eq_cons_iff.1 (h.lexemes_ofBody bodySpan.start)
  obtain ⟨calls, hcalls, hmap⟩ := FilterCall.writeCalls_of_lexemes h.args hrest
  have hkind : t.kind = .bare := congrArg Lexeme.kind ht
  have htext : t.text = i.path.text := String.toList_inj.1 (congrArg Lexeme.chars ht)
  have hpath : t.WritesPath ⟨i.path.root, i.path.rest, t.span⟩ :=
    ⟨hkind, htext, h.names, rfl⟩
  refine ⟨⟨⟨i.path.root, i.path.rest, t.span⟩, calls, span⟩, ?_, ?_⟩
  · apply parseInterpolation_of_write
    rw [hts]
    exact .mk hpath hcalls
  · simp only [unplaced, hmap, Path.unplaced]

end TextTemplate
