import TextTemplate.Emission.Parameter
import TextTemplate.Proofs.EmittedLiterals

/-!
Lines of emitted source are read as the instructions that their statements stand for. A line keeps
to itself: no text, name or argument can end it early or make it read as another shape.
-/
namespace TextTemplate.Emission
open Text

/-- The function of the library that a step calls, with its arguments behind the value. -/
def stepCall : Step Nat → String × List String
  | .operation .lower => ("lower", [])
  | .operation .upper => ("upper", [])
  | .operation .lowerLocale => ("lower_locale", [])
  | .operation .upperLocale => ("upper_locale", [])
  | .operation .trim => ("trim", [])
  | .operation .length => ("length", [])
  | .operation (.left n) => ("left", [toString n])
  | .operation (.right n) => ("right", [toString n])
  | .operation (.mid start n) => ("mid", [toString start, toString n])
  | .operation (.slice start stop) => ("slice", [toString start, stopText stop])
  | .operation (.truncate width side) =>
    ("truncate", [toString width, sideText "TruncateSide" side])
  | .operation (.pad width side) => ("pad", [toString width, sideText "PadSide" side])
  | .format index => ("format", ["&__formats[" ++ toString index ++ "]"])

theorem stepText_eq (step : Step Nat) :
    stepText step = callText (stepCall step).1 ("__v" :: (stepCall step).2) := by
  cases step with
  | operation op => cases op <;> rfl
  | format index => rfl

/-- Whether a character can stand in an argument without ending it or its line. -/
def isInner (c : Char) : Bool := c != ',' && c != ' ' && c != '\n'

theorem isInner_of_isDigit {c : Char} (h : c.isDigit) : isInner c := by
  have hne : ∀ d : Char, d.isDigit = false → c ≠ d := by
    intro d hd heq
    rw [← heq, h] at hd
    cases hd
  simp [isInner, hne ',' (by decide), hne ' ' (by decide), hne '\n' (by decide)]

theorem all_isInner_toString (n : Nat) : (toString n).toList.all isInner :=
  List.all_eq_true.2 fun _ hc => isInner_of_isDigit (isDigit_of_mem_toString hc)

theorem all_isInner_toString_int (n : Int) : (toString n).toList.all isInner := by
  cases n with
  | ofNat n => exact all_isInner_toString n
  | negSucc n =>
      rw [toString_negSucc, List.all_cons, all_isInner_toString]
      decide

theorem all_isInner_stopText (stop : Option Int) : (stopText stop).toList.all isInner := by
  cases stop with
  | none => decide
  | some stop =>
      simp only [stopText, String.toList_append, List.all_append, all_isInner_toString_int]
      decide

theorem all_isInner_sideText (type : String) (h : type.toList.all isInner) (side : Side) :
    (sideText type side).toList.all isInner := by
  simp only [sideText, library, String.toList_append, List.all_append, h]
  cases side <;> decide

theorem all_isInner_stepCall (step : Step Nat) :
    ∀ arg ∈ (stepCall step).2, arg.toList.all isInner := by
  cases step with
  | operation op =>
      cases op <;> simp only [stepCall, List.forall_mem_cons, List.not_mem_nil, false_imp_iff,
        implies_true, and_true, all_isInner_toString, all_isInner_toString_int,
        all_isInner_stopText]
      case truncate width side =>
          exact ⟨trivial, all_isInner_sideText "TruncateSide" (by decide) side⟩
      case pad width side => exact ⟨trivial, all_isInner_sideText "PadSide" (by decide) side⟩
  | format index =>
      simp only [stepCall, List.forall_mem_singleton, String.toList_append, List.all_append,
        all_isInner_toString]
      decide

theorem all_isInner_arguments (step : Step Nat) :
    ∀ arg ∈ ("__v" :: (stepCall step).2).map String.toList, arg.all isInner := by
  rw [List.map_cons, List.forall_mem_cons]
  refine ⟨by decide, fun cs hcs => ?_⟩
  obtain ⟨arg, harg, rfl⟩ := List.mem_map.1 hcs
  exact all_isInner_stepCall step arg harg

theorem behind?_append (before cs : List Char) : behind? before (before ++ cs) = some cs := by
  induction before with
  | nil => rfl
  | cons b before ih => simp [behind?, ih]

theorem between?_append (before after : String) (cs : List Char) :
    between? before after (before.toList ++ (cs ++ after.toList)) = some cs := by
  simp [between?, behind?_append]

theorem intercalate_comma_blank (first : List Char) (rest : List (List Char)) :
    [',', ' '].intercalate (first :: rest) =
      [','].intercalate (first :: rest.map (' ' :: ·)) := by
  induction rest generalizing first with
  | nil => rfl
  | cons next rest ih =>
      rw [List.map_cons, List.intercalate_cons_cons, List.intercalate_cons_cons, ih,
        List.intercalate_cons_cons_left]
      simp

theorem dropWhile_blank {cs : List Char} (h : cs.all isInner) :
    cs.dropWhile (· == ' ') = cs := by
  cases cs with
  | nil => rfl
  | cons c cs =>
      apply List.dropWhile_cons_of_neg
      simp only [List.all_cons, isInner, Bool.and_eq_true, bne_iff_ne] at h
      simp [h.1.1.2]

theorem comma_not_mem {cs : List Char} (h : cs.all isInner) : ',' ∉ cs := fun hc =>
  absurd (List.all_eq_true.1 h _ hc) (by decide)

/-- Arguments are found again between the commas. -/
theorem split_arguments {args : List (List Char)} (h : ∀ arg ∈ args, arg.all isInner)
    (hne : args ≠ []) :
    (([',', ' '].intercalate args).splitOn ',').map (·.dropWhile (· == ' ')) = args := by
  cases args with
  | nil => exact absurd rfl hne
  | cons first rest =>
      rw [List.forall_mem_cons] at h
      rw [intercalate_comma_blank, List.splitOn_intercalate]
      · rw [List.map_cons, dropWhile_blank h.1, List.map_map]
        congr 1
        calc rest.map ((·.dropWhile (· == ' ')) ∘ (' ' :: ·)) = rest.map id :=
              List.map_congr_left fun arg harg => dropWhile_blank (h.2 arg harg)
          _ = rest := List.map_id _
      · intro arg harg
        cases List.mem_cons.1 harg with
        | inl heq =>
            rw [heq]
            exact comma_not_mem h.1
        | inr harg =>
            obtain ⟨inner, hinner, rfl⟩ := List.mem_map.1 harg
            have hcomma := comma_not_mem (h.2 inner hinner)
            simp [hcomma]
      · exact List.cons_ne_nil _ _

theorem not_mem_name (step : Step Nat) :
    '(' ∉ (stepCall step).1.toList ∧ '\n' ∉ (stepCall step).1.toList := by
  cases step with
  | operation op => cases op <;> simp [stepCall]
  | format index => simp [stepCall]

theorem takeWhile_name {name : List Char} (h : '(' ∉ name) (rest : List Char) :
    (name ++ '(' :: rest).takeWhile (· != '(') = name ∧
      (name ++ '(' :: rest).dropWhile (· != '(') = '(' :: rest := by
  apply takeWhile_append_stop
  · intro c hc
    rw [bne_iff_ne]
    intro heq
    exact h (heq ▸ hc)
  · simp

theorem toList_apply (step : Step Nat) :
    (Statement.apply step).text.toList =
      "let __v = &::stencil_eval::runtime::".toList ++ ((stepCall step).1.toList ++
        '(' :: [',', ' '].intercalate (("__v" :: (stepCall step).2).map String.toList) ++
        ");".toList) := by
  change ("let __v = &" ++ stepText step ++ ";").toList = _
  simp [stepText_eq, callText, library]

theorem toList_append (text : String) :
    (Statement.append text).text.toList =
      "__out.push_str(".toList ++ ((quoted text).toList ++ ");".toList) := by
  change ("__out.push_str(" ++ quoted text ++ ");").toList = _
  simp

theorem toList_reserve (bytes : Nat) :
    (Statement.reserve bytes).text.toList =
      "let mut __out = ::std::string::String::with_capacity(".toList ++
        ((toString bytes).toList ++ ");".toList) := by
  change ("let mut __out = ::std::string::String::with_capacity(" ++ toString bytes ++
    ");").toList = _
  simp

theorem toList_bind (parameter : String) (names : List String) :
    (Statement.bind parameter names).text.toList =
      ("let __v: &::stencil_eval::Value = ::stencil_eval::runtime::lookup(" ++ parameter ++
        ", &[").toList ++ ((", ".intercalate (names.map quoted)).toList ++ "]);".toList) := by
  change ("let __v: &" ++ valueType ++ " = " ++ callText "lookup" [parameter, namesText names] ++
    ";").toList = _
  simp [callText, namesText, library, valueType]

theorem call?_text (step : Step Nat) :
    call? (Statement.apply step).text.toList =
      some (.apply (stepCall step).1 ((stepCall step).2.map String.toList)) := by
  have hbetween := between?_append "let __v = &::stencil_eval::runtime::" ");"
    ((stepCall step).1.toList ++
      '(' :: [',', ' '].intercalate (("__v" :: (stepCall step).2).map String.toList))
  rw [← toList_apply] at hbetween
  obtain ⟨htake, hdrop⟩ := takeWhile_name (not_mem_name step).1
    ([',', ' '].intercalate (("__v" :: (stepCall step).2).map String.toList))
  simp only [call?, hbetween, Option.bind_eq_bind, Option.bind_some, htake, hdrop, List.drop_one,
    List.tail_cons]
  rw [split_arguments (all_isInner_arguments step) (by simp), List.map_cons]
  simp

theorem append?_text (text : String) :
    append? (Statement.append text).text.toList = some (.append text.toList) := by
  rw [append?, toList_append, between?_append, Option.bind_some, literal?_quoted]
  rfl

theorem reserve?_text (bytes : Nat) :
    reserve? (Statement.reserve bytes).text.toList = some .reserve := by
  rw [reserve?, toList_reserve, between?_append, Option.bind_some, natural?_toString]
  rfl

theorem bind?_text (parameter name : String) (names : List String) :
    bind? parameter (Statement.bind parameter (name :: names)).text.toList =
      some (.bind (name :: names)) := by
  rw [bind?, toList_bind, between?_append, Option.bind_some, literals?_quoted]
  rfl

/-- The instruction that a statement stands for. -/
def Statement.instruction : Statement → Instruction
  | openBlock => .openBlock
  | reserve _ => .reserve
  | append text => .append text.toList
  | bind _ names => .bind names
  | apply step => .apply (stepCall step).1 ((stepCall step).2.map String.toList)
  | render => .render
  | result => .result
  | closeBlock => .closeBlock

/-- A statement that reads the context under the name `parameter`, and some path in it. -/
def Statement.Under (parameter : String) : Statement → Prop
  | bind name names => name = parameter ∧ names ≠ []
  | _ => True

/-- Each statement has a shape of its own, which no other reader takes. -/
theorem shape?_text {parameter : String} {statement : Statement}
    (h : statement.Under parameter) :
    shape? parameter statement.text.toList = some statement.instruction := by
  rw [shape?]
  cases statement with
  | openBlock | closeBlock | render | result => rfl
  | reserve bytes =>
      have hfixed : fixed? (Statement.reserve bytes).text.toList = none := by
        rw [toList_reserve]
        rfl
      rw [hfixed, reserve?_text]
      rfl
  | append text =>
      have hfixed : fixed? (Statement.append text).text.toList = none := by
        rw [toList_append]
        rfl
      have hreserve : reserve? (Statement.append text).text.toList = none := by
        rw [toList_append]
        rfl
      rw [hfixed, hreserve, append?_text]
      rfl
  | bind name names =>
      obtain ⟨rfl, hnames⟩ := h
      have hfixed : fixed? (Statement.bind name names).text.toList = none := by
        simp [toList_bind, fixed?]
      have hreserve : reserve? (Statement.bind name names).text.toList = none := by
        simp [toList_bind, reserve?, between?, behind?]
      have happend : append? (Statement.bind name names).text.toList = none := by
        simp [toList_bind, append?, between?, behind?]
      obtain ⟨first, rest, rfl⟩ := List.exists_cons_of_ne_nil hnames
      rw [hfixed, hreserve, happend, bind?_text]
      rfl
  | apply step =>
      have hfixed : fixed? (Statement.apply step).text.toList = none := by
        rw [toList_apply]
        rfl
      have hreserve : reserve? (Statement.apply step).text.toList = none := by
        rw [toList_apply]
        rfl
      have happend : append? (Statement.apply step).text.toList = none := by
        rw [toList_apply]
        rfl
      have hbind : bind? parameter (Statement.apply step).text.toList = none := by
        rw [toList_apply]
        simp [bind?, between?, behind?]
      rw [hfixed, hreserve, happend, hbind, call?_text]
      rfl

theorem dropWhile_indentation (depth : Nat) {cs : List Char} (h : cs.head? ≠ some ' ') :
    (List.replicate (4 * depth) ' ' ++ cs).dropWhile (· == ' ') = cs := by
  rw [List.dropWhile_append_of_pos]
  · cases cs with
    | nil => rfl
    | cons c cs =>
        simp only [List.head?_cons, ne_eq, Option.some.injEq] at h
        exact List.dropWhile_cons_of_neg (by simpa using h)
  · intro d hd
    simp [List.eq_of_mem_replicate hd]

theorem head?_text (statement : Statement) : statement.text.toList.head? ≠ some ' ' := by
  cases statement with
  | openBlock | closeBlock | render | result => decide
  | reserve bytes => simp [toList_reserve]
  | append text => simp [toList_append]
  | bind parameter names => simp [toList_bind]
  | apply step => simp [toList_apply]

/-- Every line is read as its instruction. -/
theorem instruction?_text {parameter : String} {line : Line}
    (h : line.statement.Under parameter) :
    instruction? parameter line.text.toList = some line.statement.instruction := by
  rw [instruction?, Line.text, String.toList_append, String.toList_ofList,
    dropWhile_indentation _ (head?_text _)]
  exact shape?_text h

theorem newline_not_mem_escaped (c : Char) : '\n' ∉ escaped c := by
  intro hmem
  obtain ⟨d, hescaped, hd, -⟩ | ⟨hescaped, -, -, hc⟩ | hescaped := escaped_cases c
  · simp [hescaped, hd.symm] at hmem
  · simp [hescaped, hc.symm] at hmem
  · have hdigit : '\n' ∈ Nat.toDigits 16 c.toNat := by
      simpa [hescaped, escapedCode] using hmem
    exact absurd ((hexValue_toDigits c.toNat).2 _ hdigit) (by decide)

theorem newline_not_mem_quoted (s : String) : '\n' ∉ (quoted s).toList := by
  simp [quoted, quotedChars, newline_not_mem_escaped]

theorem newline_not_mem_isInner {cs : List Char} (h : cs.all isInner) : '\n' ∉ cs := fun hc =>
  absurd (List.all_eq_true.1 h _ hc) (by decide)

/-- No statement takes more than its line. -/
theorem newline_not_mem_text {parameter : String} (hparameter : '\n' ∉ parameter.toList)
    {statement : Statement} (h : statement.Under parameter) : '\n' ∉ statement.text.toList := by
  cases statement with
  | openBlock | closeBlock | render | result => decide
  | reserve bytes =>
      have hbytes := newline_not_mem_isInner (all_isInner_toString bytes)
      rw [toList_reserve]
      simpa using hbytes
  | append text =>
      rw [toList_append]
      simp [newline_not_mem_quoted]
  | bind name names =>
      obtain ⟨rfl, -⟩ := h
      have hnames : '\n' ∉ [',', ' '].intercalate ((names.map quoted).map String.toList) := by
        apply not_mem_intercalate (by decide)
        intro item hitem
        simp only [List.map_map, List.mem_map, Function.comp_apply] at hitem
        obtain ⟨name, -, rfl⟩ := hitem
        exact newline_not_mem_quoted name
      rw [toList_bind, String.toList_intercalate]
      simpa [hparameter] using hnames
  | apply step =>
      have hargs := not_mem_intercalate (by decide : '\n' ∉ [',', ' ']) fun item hitem =>
        newline_not_mem_isInner (all_isInner_arguments step item hitem)
      rw [toList_apply]
      simpa [(not_mem_name step).2] using hargs

end TextTemplate.Emission
