import TextTemplate.Plan
import TextTemplate.Proofs.NumberReadBack

/-!
The sign of a zero. Values that compare equal may differ in the signs of zeros in them, as the two
zeros are equal numbers. Rendering shows none of these signs, whatever filters a value passes
through, so values without them stand for all that compare equal.
-/
namespace TextTemplate

namespace Double

/-- The number, as zero without a sign if it is zero. -/
def unsignedZero : Double → Double
  | finite negative m => finite (negative && !m.isZero) m
  | x => x

/-- Whether two numbers compare equal: the two zeros do, and nothing does to what is no number. -/
def equal : Double → Double → Bool
  | infinite negative, infinite negative' => negative == negative'
  | finite negative m, finite negative' m' => m == m' && (negative == negative' || m.isZero)
  | _, _ => false

theorem unsignedZero_eq_of_equal {x y : Double} (h : x.equal y = true) :
    x.unsignedZero = y.unsignedZero := by
  cases x with
  | nan => cases h
  | infinite negative => cases y <;> simp_all [equal]
  | finite negative m =>
      cases y with
      | nan | infinite _ => cases h
      | finite negative' m' =>
          simp only [equal, Bool.and_eq_true, Bool.or_eq_true, beq_iff_eq] at h
          obtain ⟨rfl, rfl | hzero⟩ := h
          · rfl
          · simp [unsignedZero, hzero]

theorem unsignedZero_ofNat (n : Nat) : (ofNat n).unsignedZero = ofNat n := by
  rw [ofNat]
  cases Magnitude.nearest? (n * Magnitude.one) 1 <;> rfl

theorem valueChars_unsignedZero (x : Double) : x.unsignedZero.valueChars = x.valueChars := by
  cases x with
  | nan | infinite _ => rfl
  | finite negative m => cases hzero : m.isZero <;> simp [unsignedZero, valueChars, hzero]

end Double

namespace NumberPattern

/-- Digits that are all zero, with or without a point. -/
def OnlyZeros (cs : List Char) : Prop :=
  ∀ c ∈ cs, c = '0' ∨ c = '.'

theorem showsZero_append {cs suffix : List Char} (h : OnlyZeros cs)
    (hsuffix : ∀ c ∈ suffix.head?, isSuffixStart c = true) : showsZero (cs ++ suffix) = true := by
  have hdigits : ∀ c ∈ cs, (!isSuffixStart c) = true := by
    intro c hc
    obtain rfl | rfl := h c hc <;> rfl
  obtain ⟨hbody, -⟩ := takeWhile_append_stop hdigits fun c hc => by simp [hsuffix c hc]
  rw [showsZero, hbody, List.all_eq_true]
  intro c hc
  simpa using h c hc

theorem showsZero_of_onlyZeros {cs : List Char} (h : OnlyZeros cs) : showsZero cs = true := by
  have hempty : ∀ c ∈ ([] : List Char).head?, isSuffixStart c = true := by simp
  simpa using showsZero_append h hempty

theorem onlyZeros_replicate (n : Nat) : OnlyZeros (List.replicate n '0') :=
  fun _ hc => .inl (List.eq_of_mem_replicate hc)

theorem trimFraction_subset (cs : List Char) : trimFraction cs ⊆ cs := by
  intro c hc
  simp only [trimFraction] at hc
  split at hc
  · rw [List.mem_append, List.mem_reverse] at hc
    obtain hc | hc := hc
    · have hbody := (List.dropWhile_subset _ (List.dropWhile_subset _ hc))
      exact List.takeWhile_subset _ (List.mem_reverse.1 hbody)
    · exact List.dropWhile_subset _ hc
  · exact hc

theorem onlyZeros_trimFraction {cs : List Char} (h : OnlyZeros cs) : OnlyZeros (trimFraction cs) :=
  fun c hc => h c (trimFraction_subset cs hc)

theorem onlyZeros_append {cs ds : List Char} (h : OnlyZeros cs) (h' : OnlyZeros ds) :
    OnlyZeros (cs ++ ds) := by
  intro c hc
  obtain hc | hc := List.mem_append.1 hc
  · exact h c hc
  · exact h' c hc

theorem onlyZeros_fixed (places : Nat) : OnlyZeros (Magnitude.zero.fixed places) := by
  have hround (den : Nat) : Decimal.roundHalfEven 0 den = 0 := by simp [Decimal.roundHalfEven]
  rw [Magnitude.fixed, Decimal.fixed, Magnitude.units, Magnitude.zero, Nat.zero_mul, Nat.zero_mul,
    hround, Decimal.withPlaces]
  split
  · exact onlyZeros_replicate 1
  · rw [Nat.zero_div, Nat.zero_mod]
    refine onlyZeros_append (onlyZeros_replicate 1) (List.forall_mem_cons.2 ⟨.inr rfl, ?_⟩)
    exact onlyZeros_append (onlyZeros_replicate _) (onlyZeros_replicate 1)

theorem showsZero_scientificDigits {marker : Char} (hmarker : isSuffixStart marker = true)
    (n : Nat) (exponent : Int) :
    showsZero (Decimal.scientificDigits marker (List.replicate (n + 1) '0') exponent) = true := by
  refine showsZero_append (onlyZeros_append (onlyZeros_replicate 1) ?_) (by simpa using hmarker)
  split
  · exact onlyZeros_replicate 0
  · exact List.forall_mem_cons.2 ⟨.inr rfl, onlyZeros_replicate n⟩

theorem showsZero_scientificChars {marker : Char} (hmarker : isSuffixStart marker = true)
    (precision : Option Nat) : showsZero (scientificChars marker precision .zero) = true := by
  cases precision with
  | none => exact showsZero_scientificDigits hmarker 0 _
  | some places => exact showsZero_scientificDigits hmarker places 0

theorem onlyZeros_generalChars (precision : Nat) : OnlyZeros (generalChars precision .zero) :=
  onlyZeros_fixed _

theorem showsZero_percentChars (precision : Option Nat) {m : Magnitude}
    (h : (Double.finite false m).timesHundred = .finite false .zero) :
    showsZero (percentChars precision m) = true := by
  unfold percentChars
  simp only [h]
  refine showsZero_append ?_ (by simp [isSuffixStart])
  cases precision with
  | none => exact onlyZeros_trimFraction (onlyZeros_fixed 6)
  | some places => exact onlyZeros_fixed places

theorem showsZero_styledChars (p : NumberPattern) (h : p.style.any (·.isInteger) = false) :
    showsZero (p.styledChars .zero) = true := by
  obtain ⟨alignment, sign, symbol, zeroPad, width, grouping, precision, trim, style⟩ := p
  cases style with
  | none =>
      cases precision with
      | none => rfl
      | some digits =>
          exact showsZero_of_onlyZeros (onlyZeros_trimFraction (onlyZeros_generalChars digits))
  | some style =>
      cases style with
      | binary | octal | decimal | hex | hexUpper => cases h
      | exp | expUpper => exact showsZero_scientificChars rfl precision
      | fixed => exact showsZero_of_onlyZeros (onlyZeros_fixed _)
      | general => exact showsZero_of_onlyZeros (onlyZeros_generalChars _)
      | percent =>
          have hhundred : (Double.finite false .zero).timesHundred = .finite false .zero := by
            decide +kernel
          have hpercent := showsZero_percentChars precision hhundred
          exact hpercent

/-- No pattern shows zero as anything else. -/
theorem showsNonzero_zero (p : NumberPattern) : p.showsNonzero .zero = false := by
  rw [showsNonzero]
  cases h : p.style.any (·.isInteger) with
  | true =>
      have hinteger : nearestInteger .zero = 0 := by decide +kernel
      simp [hinteger]
  | false => simp [showsZero_styledChars p h]

theorem format_unsignedZero (p : NumberPattern) (x : Double) :
    p.format x.unsignedZero = p.format x := by
  cases x with
  | nan | infinite _ => rfl
  | finite negative m =>
      cases hzero : m.isZero with
      | false => simp [Double.unsignedZero, hzero]
      | true =>
          obtain rfl := Magnitude.eq_zero_of_isZero hzero
          simp [format, formatChars, Double.unsignedZero, showsNonzero_zero]

end NumberPattern

namespace Value

mutual

/-- The value with all zeros in it as zeros without a sign. -/
def unsignedZeros : Value → Value
  | number x => number x.unsignedZero
  | list items => list (unsignedItems items)
  | object fields => object (unsignedFields fields)
  | v => v

def unsignedItems : List Value → List Value
  | [] => []
  | v :: vs => unsignedZeros v :: unsignedItems vs

def unsignedFields : List (String × Value) → List (String × Value)
  | [] => []
  | (name, v) :: fields => (name, unsignedZeros v) :: unsignedFields fields

end

/-- Two values that differ in nothing but signs of zeros. -/
def Alike (v w : Value) : Prop := v.unsignedZeros = w.unsignedZeros

mutual

/-- Whether two values compare equal. -/
def equal : Value → Value → Bool
  | undefined, undefined => true
  | null, null => true
  | bool b, bool b' => b == b'
  | number x, number y => x.equal y
  | str s, str s' => s == s'
  | date d, date d' => d == d'
  | list items, list items' => equalItems items items'
  | object fields, object fields' => equalFields fields fields'
  | _, _ => false

def equalItems : List Value → List Value → Bool
  | [], [] => true
  | v :: vs, w :: ws => equal v w && equalItems vs ws
  | _, _ => false

def equalFields : List (String × Value) → List (String × Value) → Bool
  | [], [] => true
  | (name, v) :: fields, (name', w) :: fields' =>
    name == name' && equal v w && equalFields fields fields'
  | _, _ => false

end

mutual

theorem chars_unsignedZeros (v : Value) : v.unsignedZeros.chars = v.chars := by
  match v with
  | undefined | null | bool _ | str _ | date _ => rfl
  | number x => exact x.valueChars_unsignedZero
  | list items => simp only [unsignedZeros, chars, itemChars_unsignedItems items]
  | object fields => simp only [unsignedZeros, chars, fieldChars_unsignedFields fields]

theorem itemChars_unsignedItems (items : List Value) :
    itemChars (unsignedItems items) = itemChars items := by
  match items with
  | [] => rfl
  | v :: vs =>
      simp only [unsignedItems, itemChars, chars_unsignedZeros v, laterItemChars_unsignedItems vs]

theorem laterItemChars_unsignedItems (items : List Value) :
    laterItemChars (unsignedItems items) = laterItemChars items := by
  match items with
  | [] => rfl
  | v :: vs =>
      simp only [unsignedItems, laterItemChars, chars_unsignedZeros v,
        laterItemChars_unsignedItems vs]

theorem fieldChars_unsignedFields (fields : List (String × Value)) :
    fieldChars (unsignedFields fields) = fieldChars fields := by
  match fields with
  | [] => rfl
  | (name, v) :: fields =>
      simp only [unsignedFields, fieldChars, chars_unsignedZeros v,
        laterFieldChars_unsignedFields fields]

theorem laterFieldChars_unsignedFields (fields : List (String × Value)) :
    laterFieldChars (unsignedFields fields) = laterFieldChars fields := by
  match fields with
  | [] => rfl
  | (name, v) :: fields =>
      simp only [unsignedFields, laterFieldChars, chars_unsignedZeros v,
        laterFieldChars_unsignedFields fields]

end

mutual

theorem alike_of_equal (v w : Value) (h : v.equal w = true) : v.Alike w := by
  match v with
  | undefined | null => cases w <;> first | rfl | cases h
  | bool _ | str _ | date _ => cases w <;> simp_all [equal, Alike]
  | number x =>
      cases w with
      | number y => exact congrArg number (Double.unsignedZero_eq_of_equal h)
      | undefined | null | bool _ | str _ | date _ | list _ | object _ => cases h
  | list items =>
      cases w with
      | list items' => exact congrArg list (unsignedItems_eq_of_equal items items' h)
      | undefined | null | bool _ | number _ | str _ | date _ | object _ => cases h
  | object fields =>
      cases w with
      | object fields' => exact congrArg object (unsignedFields_eq_of_equal fields fields' h)
      | undefined | null | bool _ | number _ | str _ | date _ | list _ => cases h

theorem unsignedItems_eq_of_equal (items items' : List Value)
    (h : equalItems items items' = true) : unsignedItems items = unsignedItems items' := by
  match items, items' with
  | [], [] => rfl
  | v :: vs, w :: ws =>
      simp only [equalItems, Bool.and_eq_true] at h
      have hfirst : v.unsignedZeros = w.unsignedZeros := alike_of_equal v w h.1
      rw [unsignedItems, unsignedItems, hfirst, unsignedItems_eq_of_equal vs ws h.2]
  | [], _ :: _ | _ :: _, [] => cases h

theorem unsignedFields_eq_of_equal (fields fields' : List (String × Value))
    (h : equalFields fields fields' = true) : unsignedFields fields = unsignedFields fields' := by
  match fields, fields' with
  | [], [] => rfl
  | (name, v) :: fields, (name', w) :: fields' =>
      simp only [equalFields, Bool.and_eq_true, beq_iff_eq] at h
      have hfirst : v.unsignedZeros = w.unsignedZeros := alike_of_equal v w h.1.2
      rw [unsignedFields, unsignedFields, h.1.1, hfirst,
        unsignedFields_eq_of_equal fields fields' h.2]
  | [], _ :: _ | _ :: _, [] => cases h

end

theorem unsignedItems_eq_map (items : List Value) :
    unsignedItems items = items.map unsignedZeros := by
  induction items with
  | nil => rfl
  | cons v vs ih => simp only [unsignedItems, List.map_cons, ih]

theorem lookup_unsignedFields (fields : List (String × Value)) (key : String) :
    (unsignedFields fields).lookup key = (fields.lookup key).map unsignedZeros := by
  induction fields with
  | nil => rfl
  | cons field fields ih =>
      obtain ⟨name, v⟩ := field
      rw [unsignedFields, List.lookup_cons, List.lookup_cons, ih]
      cases key == name <;> rfl

theorem get?_unsignedZeros (v : Value) (key : String) :
    v.unsignedZeros.get? key = (v.get? key).map unsignedZeros := by
  cases v with
  | undefined | null | bool _ | str _ | date _ | number _ => rfl
  | object fields => exact lookup_unsignedFields fields key
  | list items =>
      simp only [unsignedZeros, get?, unsignedItems_eq_map]
      cases index? key <;> simp

theorem lookup_unsignedZeros (v : Value) (keys : List String) :
    v.unsignedZeros.lookup keys = (v.lookup keys).unsignedZeros := by
  induction keys generalizing v with
  | nil => rfl
  | cons key keys ih =>
      rw [lookup, lookup, get?_unsignedZeros]
      cases v.get? key with
      | none => rfl
      | some w => exact ih w

theorem isNullish_unsignedZeros (v : Value) : v.unsignedZeros.isNullish = v.isNullish := by
  cases v <;> rfl

theorem date?_unsignedZeros (v : Value) : v.unsignedZeros.date? = v.date? := by
  cases v with
  | undefined | null | bool _ | str _ | date _ | list _ | object _ => rfl
  | number x =>
      cases x with
      | nan | infinite _ => rfl
      | finite negative m =>
          cases hzero : m.isZero with
          | false => simp [unsignedZeros, Double.unsignedZero, hzero]
          | true =>
              obtain rfl := Magnitude.eq_zero_of_isZero hzero
              have hfloor : Magnitude.zero.floor = 0 := by decide +kernel
              simp [unsignedZeros, Double.unsignedZero, date?, hfloor]

theorem mapText_unsignedZeros (f : List Char → List Char) (v : Value) :
    mapText f v.unsignedZeros = (mapText f v).unsignedZeros := by
  rw [mapText, mapText, isNullish_unsignedZeros, chars_unsignedZeros]
  split <;> rfl

theorem length_unsignedZeros (v : Value) : length v.unsignedZeros = (length v).unsignedZeros := by
  rw [length, length, chars_unsignedZeros, unsignedZeros, Double.unsignedZero_ofNat]

end Value

theorem Operation.apply_unsignedZeros (op : Operation) (v : Value) :
    op.apply v.unsignedZeros = (op.apply v).unsignedZeros := by
  cases op with
  | length => exact Value.length_unsignedZeros v
  | mid start count => exact Value.mapText_unsignedZeros (fun cs => (cs.drop start).take count) v
  | lower | upper | lowerLocale | upperLocale | trim | left _ | right _ | slice _ _
  | truncate _ _ | pad _ _ => exact Value.mapText_unsignedZeros _ v

theorem Formatter.apply_unsignedZeros (f : Formatter) (v : Value) :
    f.apply v.unsignedZeros = (f.apply v).unsignedZeros := by
  cases f with
  | number pattern parsed =>
      cases v with
      | number x => exact congrArg Value.str (parsed.format_unsignedZero x)
      | undefined | null | bool _ | str _ | date _ | list _ | object _ => rfl
  | time pattern parsed =>
      rw [Formatter.apply, Formatter.apply, Value.date?_unsignedZeros]
      split <;> rfl

namespace Step

theorem apply_unsignedZeros (step : Step Formatter) (v : Value) :
    step.apply v.unsignedZeros = (step.apply v).unsignedZeros := by
  cases step with
  | operation op => exact op.apply_unsignedZeros v
  | format f => exact f.apply_unsignedZeros v

theorem applyAll_unsignedZeros (steps : List (Step Formatter)) (v : Value) :
    applyAll steps v.unsignedZeros = (applyAll steps v).unsignedZeros := by
  induction steps generalizing v with
  | nil => rfl
  | cons step steps ih =>
      rw [applyAll, List.foldl_cons, apply_unsignedZeros]
      exact ih (step.apply v)

/-- Values that differ in signs of zeros are shown alike behind the same steps. -/
theorem chars_applyAll_congr (steps : List (Step Formatter)) {v w : Value} (h : v.Alike w) :
    (applyAll steps v).chars = (applyAll steps w).chars := by
  rw [← Value.chars_unsignedZeros, ← applyAll_unsignedZeros, h, applyAll_unsignedZeros,
    Value.chars_unsignedZeros]

end Step

end TextTemplate
