import TextTemplate.Formatter
import TextTemplate.Value.Transform

/-!
The meaning of emitted source, by the shapes of its lines. String literals, integers and names are
read back from the text, and each line is executed on the text built so far and on the value at
hand. Nothing here refers to how the text was made.
-/
namespace TextTemplate.Emission

/-- What follows `before` in a text that starts with it. -/
def behind? : List Char → List Char → Option (List Char)
  | [], cs => some cs
  | _ :: _, [] => none
  | b :: before, c :: cs => if b = c then behind? before cs else none

/-- The middle of a text that starts with `before` and ends with `after`. -/
def between? (before after : String) (cs : List Char) : Option (List Char) := do
  let rest ← behind? before.toList cs
  return (← behind? after.toList.reverse rest.reverse).reverse

def hexDigit? (c : Char) : Option Nat :=
  if '0' ≤ c ∧ c ≤ '9' then some (c.toNat - '0'.toNat)
  else if 'a' ≤ c ∧ c ≤ 'f' then some (c.toNat - 'a'.toNat + 10)
  else if 'A' ≤ c ∧ c ≤ 'F' then some (c.toNat - 'A'.toNat + 10)
  else none

def isHexDigit (c : Char) : Bool := (hexDigit? c).isSome

def hexValue (cs : List Char) : Nat :=
  cs.foldl (fun n c => 16 * n + (hexDigit? c).getD 0) 0

/-- The character of a code point written with one to six hexadecimal digits. -/
def codePoint? (digits : List Char) : Option Char :=
  if digits ≠ [] ∧ digits.length ≤ 6 ∧ (hexValue digits).isValidChar then
    some (Char.ofNat (hexValue digits))
  else none

/-- The character that an escape stands for, read behind its backslash, and what follows. -/
def readEscape? : List Char → Option (Char × List Char)
  | '0' :: cs => some ('\x00', cs)
  | 't' :: cs => some ('\t', cs)
  | 'r' :: cs => some ('\r', cs)
  | 'n' :: cs => some ('\n', cs)
  | '"' :: cs => some ('"', cs)
  | '\'' :: cs => some ('\'', cs)
  | '\\' :: cs => some ('\\', cs)
  | 'u' :: '\x7b' :: cs =>
    match cs.dropWhile isHexDigit with
    | '\x7d' :: rest => (codePoint? (cs.takeWhile isHexDigit)).map (·, rest)
    | _ => none
  | _ => none

theorem length_readEscape? {cs rest : List Char} {c : Char}
    (h : readEscape? cs = some (c, rest)) : rest.length < cs.length := by
  unfold readEscape? at h
  split at h
  case h_8 cs =>
    split at h
    · rename_i hrest
      obtain ⟨_, -, heq⟩ := Option.map_eq_some_iff.1 h
      simp only [Prod.mk.injEq] at heq
      have hle := (List.dropWhile_sublist isHexDigit (l := cs)).length_le
      rw [hrest, heq.2, List.length_cons] at hle
      simp only [List.length_cons]
      omega
    · cases h
  case h_9 => cases h
  all_goals
    cases h
    simp

/-- The string whose literal goes on with `cs` behind its opening quote, and what follows. -/
def readString? (cs : List Char) : Option (List Char × List Char) :=
  match cs with
  | [] => none
  | c :: rest =>
    if c = '"' then some ([], rest)
    else if c = '\\' then
      match h : readEscape? rest with
      | none => none
      | some (d, later) =>
        have : later.length < (c :: rest).length := Nat.lt_succ_of_lt (length_readEscape? h)
        (readString? later).map fun (text, later) => (d :: text, later)
    else (readString? rest).map fun (text, later) => (c :: text, later)
termination_by cs.length
decreasing_by
  · assumption
  · exact Nat.lt_succ_self _

theorem length_readString? {cs text rest : List Char} (h : readString? cs = some (text, rest)) :
    rest.length < cs.length := by
  fun_induction readString? cs generalizing text with
  | case1 | case3 => simp at h
  | case2 =>
      cases h
      simp
  | case4 cs _ d later hescape hlength ih =>
      obtain ⟨⟨text', rest'⟩, hrest, heq⟩ := Option.map_eq_some_iff.1 h
      cases heq
      exact Nat.lt_trans (ih hrest) hlength
  | case5 c cs _ _ ih =>
      obtain ⟨⟨text', rest'⟩, hrest, heq⟩ := Option.map_eq_some_iff.1 h
      cases heq
      exact Nat.lt_succ_of_lt (ih hrest)

/-- The string that the literal at the start of a text denotes, and what follows. -/
def readLiteral? : List Char → Option (List Char × List Char)
  | '"' :: cs => readString? cs
  | _ => none

theorem length_readLiteral? {cs text rest : List Char}
    (h : readLiteral? cs = some (text, rest)) : rest.length < cs.length := by
  rw [readLiteral?.eq_def] at h
  split at h
  · exact Nat.lt_succ_of_lt (length_readString? h)
  · cases h

theorem length_behind_literal {cs text later : List Char} {c d : Char}
    (h : readLiteral? cs = some (text, c :: d :: later)) : later.length < cs.length :=
  Nat.lt_of_succ_lt (Nat.lt_of_succ_lt (length_readLiteral? h))

/-- The string that a text denotes as a literal. -/
def literal? (cs : List Char) : Option (List Char) :=
  match readLiteral? cs with
  | some (text, []) => some text
  | _ => none

/-- The strings that literals with commas between them denote. -/
def literals? (cs : List Char) : Option (List String) :=
  match h : readLiteral? cs with
  | some (text, []) => some [String.ofList text]
  | some (text, ',' :: ' ' :: later) =>
    have : later.length < cs.length := length_behind_literal h
    (literals? later).map (String.ofList text :: ·)
  | _ => none
termination_by cs.length
decreasing_by assumption

def natural? (cs : List Char) : Option Nat :=
  if cs ≠ [] ∧ cs.all Char.isDigit then some (Nat.ofDigitChars 10 cs 0) else none

/-- An unsigned 64-bit integer. -/
def count? (cs : List Char) : Option Nat :=
  (natural? cs).filter (· < 2 ^ 64)

/-- A signed 64-bit integer. -/
def position? : List Char → Option Int
  | '-' :: cs => ((natural? cs).filter (· ≤ 2 ^ 63)).map fun n => -(n : Int)
  | cs => ((natural? cs).filter (· < 2 ^ 63)).map fun n => (n : Int)

def stop? (cs : List Char) : Option (Option Int) :=
  if cs = "None".toList then some none
  else ((between? "Some(" ")" cs).bind position?).map some

def side? (type : String) (cs : List Char) : Option Side :=
  match (behind? ("::stencil_eval::runtime::" ++ type ++ "::").toList cs).map String.ofList with
  | some "Right" => some .right
  | some "Left" => some .left
  | some "Middle" => some .middle
  | _ => none

/-- What a function of the library does to a value, with the texts of its other arguments. -/
def function? (formats : List Formatter) (name : String) (args : List (List Char)) :
    Option (Value → Value) :=
  match name, args with
  | "lower", [] => some Value.lower
  | "upper", [] => some Value.upper
  | "lower_locale", [] => some Value.lowerLocale
  | "upper_locale", [] => some Value.upperLocale
  | "trim", [] => some Value.trim
  | "length", [] => some Value.length
  | "left", [n] => return Value.left (← count? n)
  | "right", [n] => return Value.right (← count? n)
  | "mid", [start, n] => return Value.mid (← count? start) (← count? n)
  | "slice", [start, stop] => return Value.slice (← position? start) (← stop? stop)
  | "truncate", [width, side] =>
    return Value.truncate (← count? width) (← side? "TruncateSide" side)
  | "pad", [width, side] => return Value.pad (← count? width) (← side? "PadSide" side)
  | "format", [formatter] => do
    let position ← (between? "&__formats[" "]" formatter).bind natural?
    return (← formats[position]?).apply
  | _, _ => none

/-- What a line tells to do. -/
inductive Instruction where
  | openBlock
  | reserve
  | append (text : List Char)
  | bind (names : List String)
  | apply (function : String) (args : List (List Char))
  | render
  | result
  | closeBlock
deriving DecidableEq, Repr

def fixed? (cs : List Char) : Option Instruction :=
  if cs = "\x7b".toList then some .openBlock
  else if cs = "\x7d".toList then some .closeBlock
  else if cs = "__out".toList then some .result
  else if cs = "::stencil_eval::runtime::render(__v, &mut __out);".toList then some .render
  else none

def reserve? (cs : List Char) : Option Instruction := do
  let _ ← (between? "let mut __out = ::std::string::String::with_capacity(" ");" cs).bind natural?
  return .reserve

def append? (cs : List Char) : Option Instruction :=
  ((between? "__out.push_str(" ");" cs).bind literal?).map .append

/-- The context is read under the name `parameter`. -/
def bind? (parameter : String) (cs : List Char) : Option Instruction :=
  let before := "let __v: &::stencil_eval::Value = ::stencil_eval::runtime::lookup(" ++
    parameter ++ ", &["
  ((between? before "]);" cs).bind literals?).map .bind

/-- A call whose first argument is the value at hand. -/
def call? (cs : List Char) : Option Instruction := do
  let call ← between? "let __v = &::stencil_eval::runtime::" ");" cs
  let args := ((call.dropWhile (· != '(')).drop 1).splitOn ','
  match args.map (·.dropWhile (· == ' ')) with
  | value :: args =>
    if value = "__v".toList then
      return .apply (String.ofList (call.takeWhile (· != '('))) args
    else none
  | [] => none

def shape? (parameter : String) (cs : List Char) : Option Instruction :=
  fixed? cs <|> reserve? cs <|> append? cs <|> bind? parameter cs <|> call? cs

/-- The instruction of a line, whose indentation says nothing. -/
def instruction? (parameter : String) (line : List Char) : Option Instruction :=
  shape? parameter (line.dropWhile (· == ' '))

/-- Where execution stands: which blocks are open, the text built so far, and the value that the
local name of an inner block is bound to. -/
inductive State where
  | start
  | opened
  | outer (out : List Char)
  | inner (out : List Char)
  | bound (out : List Char) (v : Value)
  | result (out : List Char)
  | finished (out : List Char)

variable (parameter : String) (formats : List Formatter) (context : Value)

def step? : State → Instruction → Option State
  | .start, .openBlock => some .opened
  | .opened, .reserve => some (.outer [])
  | .outer out, .append text => some (.outer (out ++ text))
  | .outer out, .openBlock => some (.inner out)
  | .inner out, .bind names => some (.bound out (context.lookup names))
  | .bound out v, .apply function args =>
    (function? formats function args).map fun f => .bound out (f v)
  | .bound out v, .render => some (.bound (out ++ v.chars) v)
  | .bound out _, .closeBlock => some (.outer out)
  | .outer out, .result => some (.result out)
  | .result out, .closeBlock => some (.finished out)
  | _, _ => none

def execute? (s : State) (line : List Char) : Option State :=
  (instruction? parameter line).bind (step? formats context s)

def executeAll? (s : State) (lines : List (List Char)) : Option State :=
  lines.foldlM (execute? parameter formats context) s

/-- The text that emitted source gives in a context, which it reads under the name `parameter`,
with `formats` as its formatters. -/
def run? (source : String) : Option String :=
  match executeAll? parameter formats context .start (source.toList.splitOn '\n') with
  | some (.finished out) => some (String.ofList out)
  | _ => none

end TextTemplate.Emission
