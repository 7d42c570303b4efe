import TextTemplate.Step.Operation

/-!
Decoded arguments. The operation of a call tells how each argument was decoded: every number in it
is at most the greatest one allowed, so that it fits the integer types of the emitted language, and
every keyword is a direction.
-/
namespace TextTemplate.Operation

def Bounded : Operation → Prop
  | left n | right n | truncate n _ | pad n _ => n ≤ maxArgument
  | mid start n => start ≤ maxArgument ∧ n ≤ maxArgument
  | slice start stop =>
    start.natAbs ≤ maxArgument ∧ ∀ position ∈ stop, position.natAbs ≤ maxArgument
  | lower | upper | lowerLocale | upperLocale | trim | length => True

theorem natAbs_position_le {filter : Filter} {arg : Argument} {n : Int}
    (h : position filter arg = .ok n) : n.natAbs ≤ maxArgument := by
  cases arg with
  | str value span | keyword value span => cases h
  | number x span =>
      cases x with
      | nan | infinite _ => cases h
      | finite negative m =>
          simp only [position] at h
          split at h
          · cases h
          · split at h
            · cases h
            · cases h
              split <;> omega

theorem count_le {filter : Filter} {arg : Argument} {n : Nat}
    (h : count filter arg = .ok n) : n ≤ maxArgument := by
  rw [count] at h
  split at h
  · cases h
  · rename_i position hposition
    have hle := natAbs_position_le hposition
    split at h
    · cases h
    · cases h
      omega

private theorem except_bind_eq_ok {ε α β : Type} {x : Except ε α} {f : α → Except ε β} {b : β} :
    x >>= f = .ok b ↔ ∃ a, x = .ok a ∧ f a = .ok b := by
  cases x <;> simp [Bind.bind, Except.bind]

/-- The operation that a call of a filter makes, with what each of its arguments is decoded to. -/
inductive Decodes : Filter → List Argument → Operation → Prop
  | lower : Decodes .lower [] lower
  | upper : Decodes .upper [] upper
  | lowerLocale : Decodes .lowerLocale [] lowerLocale
  | upperLocale : Decodes .upperLocale [] upperLocale
  | trim : Decodes .trim [] trim
  | length : Decodes .length [] length
  | left {arg : Argument} {n : Nat} (h : count .left arg = .ok n) : Decodes .left [arg] (left n)
  | right {arg : Argument} {n : Nat} (h : count .right arg = .ok n) :
      Decodes .right [arg] (right n)
  | mid {first second : Argument} {start n : Nat} (hstart : count .mid first = .ok start)
      (hn : count .mid second = .ok n) : Decodes .mid [first, second] (mid start n)
  | slice {arg : Argument} {start : Int} (h : position .slice arg = .ok start) :
      Decodes .slice [arg] (slice start none)
  | sliceTo {first second : Argument} {start stop : Int}
      (hstart : position .slice first = .ok start) (hstop : position .slice second = .ok stop) :
      Decodes .slice [first, second] (slice start (some stop))
  | truncate {arg : Argument} {width : Nat} (h : count .truncate arg = .ok width) :
      Decodes .truncate [arg] (truncate width .right)
  | truncateAt {first second : Argument} {width : Nat} {side : Side}
      (hwidth : count .truncate first = .ok width)
      (hside : direction .truncate second = .ok side) :
      Decodes .truncate [first, second] (truncate width side)
  | pad {arg : Argument} {width : Nat} (h : count .pad arg = .ok width) :
      Decodes .pad [arg] (pad width .right)
  | padAt {first second : Argument} {width : Nat} {side : Side}
      (hwidth : count .pad first = .ok width) (hside : direction .pad second = .ok side) :
      Decodes .pad [first, second] (pad width side)

theorem ofCall_eq_ok_iff {call : FilterCall} {op : Operation} :
    ofCall call = .ok op ↔ Decodes call.filter call.args op := by
  constructor
  · intro h
    rw [ofCall] at h
    split at h
    case h_7 hfilter hargs | h_8 hfilter hargs | h_10 hfilter hargs | h_12 hfilter hargs
        | h_14 hfilter hargs =>
        obtain ⟨n, hn, h⟩ := except_bind_eq_ok.1 h
        cases h
        rw [hfilter, hargs]
        constructor
        exact hn
    case h_9 hfilter hargs | h_11 hfilter hargs | h_13 hfilter hargs | h_15 hfilter hargs =>
        obtain ⟨first, hfirst, h⟩ := except_bind_eq_ok.1 h
        obtain ⟨second, hsecond, h⟩ := except_bind_eq_ok.1 h
        cases h
        rw [hfilter, hargs]
        constructor
        · exact hfirst
        · exact hsecond
    case h_16 => cases h
    all_goals
      rename_i hfilter hargs
      cases h
      rw [hfilter, hargs]
      constructor
  · intro h
    obtain ⟨filter, args, span⟩ := call
    cases h with
    | lower | upper | lowerLocale | upperLocale | trim | length => rfl
    | left h | right h | slice h | truncate h | pad h =>
        exact except_bind_eq_ok.2 ⟨_, h, rfl⟩
    | mid hfirst hsecond | sliceTo hfirst hsecond | truncateAt hfirst hsecond
    | padAt hfirst hsecond =>
        exact except_bind_eq_ok.2 ⟨_, hfirst, except_bind_eq_ok.2 ⟨_, hsecond, rfl⟩⟩

theorem Decodes.bounded {filter : Filter} {args : List Argument} {op : Operation}
    (h : Decodes filter args op) : op.Bounded := by
  cases h with
  | lower | upper | lowerLocale | upperLocale | trim | length => trivial
  | left h | right h | truncate h | truncateAt h _ | pad h | padAt h _ => exact count_le h
  | mid hstart hn => exact ⟨count_le hstart, count_le hn⟩
  | slice h => exact ⟨natAbs_position_le h, by simp⟩
  | sliceTo hstart hstop =>
      refine ⟨natAbs_position_le hstart, ?_⟩
      simpa using natAbs_position_le hstop

theorem position_keyword (filter : Filter) (word : String) (span : Span) (n : Int) :
    position filter (.keyword word span) ≠ .ok n := by
  simp [position, invalid]

theorem count_keyword (filter : Filter) (word : String) (span : Span) (n : Nat) :
    count filter (.keyword word span) ≠ .ok n := by
  simp [count, position, invalid]

theorem direction_keyword {filter : Filter} {word : String} {span : Span} {side : Side}
    (h : direction filter (.keyword word span) = .ok side) : Side.ofKeyword? word = some side := by
  rw [direction] at h
  split at h
  · rename_i side' hside
    cases h
    exact hside
  · cases h

/-- The only keywords that an operation takes are directions. -/
theorem Decodes.keyword {filter : Filter} {args : List Argument} {op : Operation}
    (h : Decodes filter args op) {word : String} {span : Span}
    (hmem : .keyword word span ∈ args) : ∃ side, Side.ofKeyword? word = some side := by
  cases h with
  | lower | upper | lowerLocale | upperLocale | trim | length => cases hmem
  | left h | right h | truncate h | pad h =>
      obtain rfl := List.mem_singleton.1 hmem
      exact absurd h (count_keyword _ _ _ _)
  | slice h =>
      obtain rfl := List.mem_singleton.1 hmem
      exact absurd h (position_keyword _ _ _ _)
  | mid hstart hn =>
      simp only [List.mem_cons, List.not_mem_nil, or_false] at hmem
      obtain rfl | rfl := hmem
      · exact absurd hstart (count_keyword _ _ _ _)
      · exact absurd hn (count_keyword _ _ _ _)
  | sliceTo hstart hstop =>
      simp only [List.mem_cons, List.not_mem_nil, or_false] at hmem
      obtain rfl | rfl := hmem
      · exact absurd hstart (position_keyword _ _ _ _)
      · exact absurd hstop (position_keyword _ _ _ _)
  | truncateAt hwidth hside | padAt hwidth hside =>
      simp only [List.mem_cons, List.not_mem_nil, or_false] at hmem
      obtain rfl | rfl := hmem
      · exact absurd hwidth (count_keyword _ _ _ _)
      · exact ⟨_, direction_keyword hside⟩

end TextTemplate.Operation
