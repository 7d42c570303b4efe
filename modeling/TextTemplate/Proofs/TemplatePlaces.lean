import TextTemplate.Proofs.InterpolationGrammar
import TextTemplate.Proofs.SourcePlaces
import TextTemplate.Proofs.TokenPartition
import TextTemplate.Template.Text

/-!
Where the parts of a template stand in its source. Every span of a template is that of a byte range
that holds what the span is for, also behind the greatest offset: the ranges of the segments tile
the source, and the ranges of what an interpolation names stand in order and apart from each other
between its braces.
-/
namespace TextTemplate
open Token Text Syntax

/-- The span is that of a byte range of the source, and the range holds this text. -/
structure Span.Locates (s : Span) (source : String) (range : Nat × Nat) (text : String) :
    Prop where
  span_eq : s = ofRange range.1 range.2
  holds : ∃ before after, source.toList = before ++ text.toList ++ after ∧
    range = byteRange before text.toList

/-- A span of a template, and which texts may stand there. -/
structure Placement where
  span : Span
  Accepts : String → Prop

/-- The argument is what this text is read as. -/
def Argument.Spells : Argument → String → Prop
  | .str value _, text => ∃ quote, isQuote quote = true ∧ quote ∉ value.toList ∧
      text.toList = quote :: value.toList ++ [quote]
  | .number value _, text => Double.ofText? text.toList = some value
  | .keyword value _, text => text = value

def Argument.placement (a : Argument) : Placement := ⟨a.span, a.Spells⟩

def FilterCall.placements (f : FilterCall) : List Placement :=
  ⟨f.span, (· = f.filter.name)⟩ :: f.args.map Argument.placement

/-- The path, and each filter with its arguments. -/
def Interpolation.placements (i : Interpolation) : List Placement :=
  ⟨i.path.span, (· = i.path.text)⟩ :: i.filters.flatMap FilterCall.placements

/-- The interpolation takes up a range of the source, and what it names stands in order and apart
from each other between its braces. -/
structure Interpolation.Located (i : Interpolation) (source : String) (range : Nat × Nat) :
    Prop where
  whole : ∃ body, i.span.Locates source range ("\x7b\x7b" ++ body ++ "\x7d\x7d")
  parts : ∃ ranges : List (Nat × Nat),
    List.Forall₂ (fun inner place => ∃ text, place.span.Locates source inner text ∧
      place.Accepts text) ranges i.placements ∧
    (∀ inner ∈ ranges, range.1 + 2 ≤ inner.1 ∧ inner.1 < inner.2 ∧ inner.2 + 2 ≤ range.2) ∧
    ranges.Pairwise fun inner next => inner.2 ≤ next.1

def Segment.Located (source : String) (range : Nat × Nat) : Segment → Prop
  | .literal text span => span.Locates source range text
  | .interpolation i => i.Located source range

/-- The spans of a segment. -/
def Segment.placements : Segment → List Placement
  | .literal text span => [⟨span, (· = text)⟩]
  | .interpolation i =>
    ⟨i.span, fun text => ∃ body, text = "\x7b\x7b" ++ body ++ "\x7d\x7d"⟩ :: i.placements

/-- Ranges that are not empty, each of which starts where the one in front of it stops. -/
def Tiles (start : Nat) : List (Nat × Nat) → Nat → Prop
  | [], stop => start = stop
  | range :: ranges, stop => range.1 = start ∧ range.1 < range.2 ∧ Tiles range.2 ranges stop

namespace Token

/-- The token stands where the span of a placement is, and is one of the texts that it accepts. -/
structure Bears (t : Token) (p : Placement) : Prop where
  span_eq : p.span = t.span
  accepts : p.Accepts t.text

theorem WritesPath.bears {t : Token} {p : Path} (h : t.WritesPath p) :
    t.Bears ⟨p.span, (· = p.text)⟩ :=
  ⟨h.span, h.text⟩

theorem WritesArgument.bears {filter : Filter} {t : Token} {arg : Argument} (ht : t.Shaped)
    (h : t.WritesArgument filter arg) : t.Bears arg.placement := by
  cases h with
  | str kind text =>
      obtain ⟨quote, value, hquote, hmem, htext⟩ : Shape .quoted t.text.toList := kind ▸ ht
      rw [htext] at text
      have hvalue := List.append_inj_left' (List.cons.inj text).2 rfl
      refine ⟨rfl, quote, hquote, ?_, ?_⟩
      · rwa [String.toList_ofList, ← hvalue]
      · rw [String.toList_ofList, ← hvalue, htext]
  | number _ _ reads _ => exact ⟨rfl, reads⟩
  | keyword _ _ _ => exact ⟨rfl, rfl⟩

theorem WriteArguments.bears {filter : Filter} {ts : List Token} {args : List Argument}
    (hts : ∀ t ∈ ts, t.Shaped) (h : WriteArguments filter ts args) :
    ∃ us, us.Sublist ts ∧ List.Forall₂ Bears us (args.map Argument.placement) := by
  induction h with
  | single harg =>
      exact ⟨_, .refl _, .cons (harg.bears (hts _ (by simp))) .nil⟩
  | cons harg _ _ ih =>
      obtain ⟨us, hsub, hbears⟩ := ih fun t ht => hts t (by simp [ht])
      exact ⟨_ :: us, (hsub.cons _).cons_cons _, .cons (harg.bears (hts _ (by simp))) hbears⟩

theorem WriteCall.bears {ts : List Token} {call : FilterCall} (hts : ∀ t ∈ ts, t.Shaped)
    (h : WriteCall ts call) : ∃ us, us.Sublist ts ∧ List.Forall₂ Bears us call.placements := by
  cases h with
  | name _ hname => exact ⟨_, .refl _, .cons ⟨rfl, hname⟩ .nil⟩
  | arguments _ hname _ hargs =>
      obtain ⟨us, hsub, hbears⟩ := hargs.bears fun t ht => hts t (by simp [ht])
      exact ⟨_ :: us, (hsub.cons _).cons_cons _, .cons ⟨rfl, hname⟩ hbears⟩

theorem WriteCalls.bears {ts : List Token} {calls : List FilterCall} (hts : ∀ t ∈ ts, t.Shaped)
    (h : WriteCalls ts calls) :
    ∃ us, us.Sublist ts ∧ List.Forall₂ Bears us (calls.flatMap FilterCall.placements) := by
  induction h with
  | nil => exact ⟨[], .refl _, .nil⟩
  | cons _ hcall _ ih =>
      obtain ⟨us, hus, hcalls⟩ := hcall.bears fun t ht => hts t (by simp [ht])
      obtain ⟨vs, hvs, hrest⟩ := ih fun t ht => hts t (by simp [ht])
      exact ⟨us ++ vs, (hus.append hvs).cons _, List.rel_append hcalls hrest⟩

/-- The tokens of an interpolation that name something, in order. -/
theorem WriteInterpolation.bears {ts : List Token} {i : Interpolation}
    (hts : ∀ t ∈ ts, t.Shaped) (h : WriteInterpolation ts i.path i.filters) :
    ∃ us, us.Sublist ts ∧ List.Forall₂ Bears us i.placements := by
  obtain ⟨path, calls, span⟩ := i
  cases h with
  | mk hpath hcalls =>
      obtain ⟨us, hsub, hbears⟩ := hcalls.bears fun t ht => hts t (by simp [ht])
      exact ⟨_ :: us, hsub.cons_cons _, .cons hpath.bears hbears⟩

/-- A token of a body that starts at `base` has its range of the source. -/
theorem Occupies.locates {source : String} {before body after : List Char} {stop : Nat}
    {range : Nat × Nat} {t : Token}
    (h : Occupies (Span.ofRange (byteSize before) stop).start body range t)
    (hsource : source.toList = before ++ body ++ after) :
    t.span.Locates source (byteSize before + range.1, byteSize before + range.2) t.text := by
  obtain ⟨front, rest, hbody, hrange, hspan, -⟩ := h
  refine ⟨?_, before ++ front, rest ++ after, by simp [hsource, hbody], ?_⟩
  · rw [hspan, Span.offset_ofRange]
  · simp only [hrange, byteRange, byteSize_append, Nat.add_assoc]

end Token

/-- An interpolation that is read from a body stands where the body does. -/
theorem Syntax.located_of_parse {source : String} {before body after : List Char}
    {i : Interpolation}
    (hsource : source.toList = before ++ '\x7b' :: '\x7b' :: (body ++ '\x7d' :: '\x7d' :: after))
    (h : parseInterpolation (String.ofList body)
      (.ofRange (byteSize before + 2) (byteSize before + 2 + byteSize body))
      (.ofRange (byteSize before) (byteSize before + 4 + byteSize body)) = .ok i) :
    i.Located source (byteSize before, byteSize before + 4 + byteSize body) := by
  obtain ⟨hwrites, hspan⟩ := writeInterpolation_of_parse h
  obtain ⟨us, hsub, hbears⟩ := hwrites.bears (shaped_of_mem_ofBody _ _)
  rw [ofBody, String.toList_ofList] at hsub
  have hseam : Seam [] body := by simp [Seam]
  obtain ⟨chosen, hchosen, hplaces⟩ :=
    exists_sublist_of_forall₂ (occupies_lexFrom hseam) hsub hbears
  have hstart : byteSize (before ++ ['\x7b', '\x7b']) = byteSize before + 2 :=
    byteSize_pair (by decide) before []
  refine ⟨⟨String.ofList body, hspan, before, after, by simp [hsource], ?_⟩,
    chosen.map fun range => (byteSize before + 2 + range.1, byteSize before + 2 + range.2),
    ?_, ?_, ?_⟩
  · rw [byteRange, Fragment.byteSize_braces, String.toList_ofList, Nat.add_assoc]
  · rw [List.forall₂_map_left_iff]
    refine hplaces.imp fun range place hplace => ?_
    obtain ⟨t, hoccupies, hbears⟩ := hplace
    rw [List.nil_append, ← hstart] at hoccupies
    have hinside : source.toList =
        before ++ ['\x7b', '\x7b'] ++ body ++ '\x7d' :: '\x7d' :: after := by
      simp [hsource]
    refine ⟨t.text, ?_, hbears.accepts⟩
    rw [hbears.span_eq, ← hstart]
    exact hoccupies.locates hinside
  · rw [List.forall_mem_map]
    intro range hrange
    have hbounds := bounds_of_mem_ranges (hchosen.subset hrange)
    rw [byteSize, Nat.zero_add] at hbounds
    dsimp only
    omega
  · rw [List.pairwise_map]
    refine ((pairwise_ranges _ _).sublist hchosen).imp fun hle => ?_
    dsimp only
    omega

theorem Tiles.append {start middle stop : Nat} {ranges others : List (Nat × Nat)}
    (h : Tiles start ranges middle) (h' : Tiles middle others stop) :
    Tiles start (ranges ++ others) stop := by
  induction ranges generalizing start with
  | nil =>
      cases h
      exact h'
  | cons range ranges ih => exact ⟨h.1, h.2.1, ih h.2.2⟩

theorem located_literalSegments {source : String} {before text after : List Char}
    (hsource : source.toList = before ++ text ++ after) :
    ∃ ranges, Tiles (byteSize before) ranges (byteSize before + byteSize text) ∧
      List.Forall₂ (Segment.Located source) ranges (literalSegments (byteSize before) text) := by
  cases text with
  | nil => exact ⟨[], rfl, .nil⟩
  | cons c text =>
      have hpos := c.utf8Size_pos
      have hrange : byteSize before < byteSize before + byteSize (c :: text) := by
        rw [byteSize]
        omega
      refine ⟨[byteRange before (c :: text)], ⟨rfl, hrange, rfl⟩, .cons ⟨rfl, ?_⟩ .nil⟩
      exact ⟨before, after, by simp [hsource], by rw [String.toList_ofList]⟩

/-- The segments that the end of a source writes have ranges that tile it. -/
theorem Writes.located {source : String} {offset : Nat} {before cs : List Char}
    {segments : List Segment} (h : Writes offset cs segments)
    (hsource : source.toList = before ++ cs) (hoffset : offset = byteSize before) :
    ∃ ranges, Tiles offset ranges (offset + byteSize cs) ∧
      List.Forall₂ (Segment.Located source) ranges segments := by
  induction h generalizing before with
  | @literal offset text _ =>
      rw [← List.append_nil (before ++ text)] at hsource
      rw [hoffset]
      exact located_literalSegments hsource
  | @interpolation offset start size text body after i rest hstart hsize _ _ hparse _ ih =>
      subst hstart hsize hoffset
      have hbody : source.toList =
          before ++ text ++ '\x7b' :: '\x7b' :: (body ++ '\x7d' :: '\x7d' :: after) := by
        simp [hsource]
      obtain ⟨front, hfront, hliterals⟩ := located_literalSegments hbody
      have hsize : byteSize before +
          byteSize (text ++ '\x7b' :: '\x7b' :: (body ++ '\x7d' :: '\x7d' :: after)) =
            byteSize (before ++ text) + 4 + byteSize body + byteSize after := by
        rw [byteSize_pair (by decide), byteSize_pair (by decide), byteSize_append]
        omega
      have hstop : byteSize (before ++ text) + 4 + byteSize body =
          byteSize (before ++ text ++ '\x7b' :: '\x7b' :: (body ++ ['\x7d', '\x7d'])) := by
        rw [byteSize_pair (by decide), byteSize_pair (by decide)]
        simp only [byteSize]
        omega
      rw [hsize]
      rw [← byteSize_append] at hparse ih hfront
      obtain ⟨behind, hbehind, hrest⟩ := ih (by simp [hsource]) hstop
      refine ⟨front ++ (byteSize (before ++ text), byteSize (before ++ text) + 4 + byteSize body) ::
        behind, hfront.append ⟨rfl, by dsimp only; omega, hbehind⟩,
        List.rel_append hliterals (.cons (located_of_parse hbody hparse) hrest)⟩

theorem Span.Locates.slice? {s : Span} {source text : String} {range : Nat × Nat}
    (h : s.Locates source range text) (hsize : source.utf8ByteSize < 2 ^ 32) :
    s.slice? source = some text := by
  obtain ⟨hspan, before, after, hsource, hrange⟩ := h
  have hstop : byteSize before + byteSize text.toList ≤ maxOffset := by
    rw [← byteSize_toList source, hsource] at hsize
    simp only [byteSize_append] at hsize
    simp only [maxOffset, UInt32.size]
    omega
  refine slice?_eq_some_iff.2 ⟨before, after, hsource, ?_⟩
  rw [hspan, hrange, byteRange, ofRange_of_le (Nat.le_add_right _ _) hstop]

/-- Below 4 GiB every span of a segment marks what it is for. -/
theorem Segment.Located.slice? {source : String} {range : Nat × Nat} {segment : Segment}
    (h : segment.Located source range) (hsize : source.utf8ByteSize < 2 ^ 32) :
    ∀ place ∈ segment.placements,
      ∃ text, place.span.slice? source = some text ∧ place.Accepts text := by
  cases segment with
  | literal text span =>
      rw [placements, List.forall_mem_singleton]
      exact ⟨text, Span.Locates.slice? h hsize, rfl⟩
  | interpolation i =>
      obtain ⟨⟨body, hbody⟩, ranges, hplaces, -, -⟩ := h
      rw [placements, List.forall_mem_cons]
      refine ⟨⟨_, hbody.slice? hsize, body, rfl⟩, fun place hplace => ?_⟩
      obtain ⟨inner, text, hlocates, haccepts⟩ := exists_of_forall₂ hplaces.flip place hplace
      exact ⟨text, hlocates.slice? hsize, haccepts⟩

/-- Every span of the template of a source is that of a byte range that holds what the span is for.
The ranges of the segments tile the source, and those of what an interpolation names stand in order
and apart from each other between its braces; so below 4 GiB all spans are exact. -/
theorem Template.parse_located {source : String} {t : Template} (h : parse source = .ok t) :
    (∃ ranges, Tiles 0 ranges source.utf8ByteSize ∧
      List.Forall₂ (Segment.Located source) ranges t.segments) ∧
    (source.utf8ByteSize < 2 ^ 32 → ∀ segment ∈ t.segments, ∀ place ∈ segment.placements,
      ∃ text, place.span.slice? source = some text ∧ place.Accepts text) := by
  obtain ⟨ranges, htiles, hlocated⟩ := (parse_eq_ok_iff.1 h).located (List.nil_append _).symm rfl
  rw [Nat.zero_add, byteSize_toList] at htiles
  refine ⟨⟨ranges, htiles, hlocated⟩, fun hsize segment hsegment => ?_⟩
  obtain ⟨range, hsegment⟩ := exists_of_forall₂ hlocated.flip segment hsegment
  exact Segment.Located.slice? hsegment hsize

/-- Text of two bytes in front of a path, two filters, and arguments of all three kinds. -/
theorem Template.parse_located_arguments :
    let source := "é\x7b\x7b p.q|pad: 4 ,left|number:'é'\x7d\x7d."
    ∃ t, parse source = .ok t ∧
      (∃ ranges, Tiles 0 ranges source.utf8ByteSize ∧
        List.Forall₂ (Segment.Located source) ranges t.segments) ∧
      ∀ segment ∈ t.segments, ∀ place ∈ segment.placements,
        ∃ text, place.span.slice? source = some text ∧ place.Accepts text := by
  intro source
  have htext : (parse source).toOption.map Template.text =
      some "é\x7b\x7bp.q|pad:4,left|number:\"é\"\x7d\x7d." := by decide +kernel
  obtain ⟨t, ht, -⟩ := Option.map_eq_some_iff.1 htext
  have hok := eq_ok_of_toOption ht
  obtain ⟨hranges, hexact⟩ := parse_located hok
  exact ⟨t, hok, hranges, hexact (by decide)⟩

end TextTemplate
