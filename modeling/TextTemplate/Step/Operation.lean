import TextTemplate.CompileError
import TextTemplate.Template.Text
import TextTemplate.Value.Transform

/-!
Operations: calls of the filters that take no pattern, with their arguments decoded. Decoding
checks the number of the arguments and then each of them from the left, so that applying an
operation cannot fail.
-/
namespace TextTemplate

inductive Operation where
  | lower
  | upper
  | lowerLocale
  | upperLocale
  | trim
  | length
  | left (count : Nat)
  | right (count : Nat)
  | mid (start count : Nat)
  | slice (start : Int) (stop : Option Int)
  | truncate (width : Nat) (side : Side)
  | pad (width : Nat) (side : Side)
deriving DecidableEq, Repr

namespace Operation

/-- The greatest count or position that an argument may have. -/
def maxArgument : Nat := 2 ^ 30

def invalid {α : Type} (filter : Filter) (arg : Argument) (reason : String) :
    Except CompileError α :=
  .error ⟨.invalidArgument filter reason, arg.span⟩

/-- A whole number in range, written as a bare number. -/
def position (filter : Filter) (arg : Argument) : Except CompileError Int :=
  match arg with
  | .number (.finite negative m) _ =>
    if !m.isWhole then
      invalid filter arg ("expected a whole number, found `" ++ arg.text ++ "`")
    else if maxArgument < m.floor then
      invalid filter arg ("`" ++ arg.text ++ "` is too large")
    else .ok (if negative then -(m.floor : Int) else m.floor)
  | .number _ _ => invalid filter arg ("expected a whole number, found `" ++ arg.text ++ "`")
  | .str _ _ | .keyword _ _ =>
    invalid filter arg
      ("expected a whole number, found " ++ arg.description ++ " `" ++ arg.text ++ "`")

/-- A whole number in range that is not negative. -/
def count (filter : Filter) (arg : Argument) : Except CompileError Nat :=
  match position filter arg with
  | .error e => .error e
  | .ok n =>
    if n < 0 then
      invalid filter arg ("expected a non-negative number, found `" ++ arg.text ++ "`")
    else .ok n.toNat

/-- A direction, quoted or not. -/
def direction (filter : Filter) (arg : Argument) : Except CompileError Side :=
  match arg.text?.bind Side.ofKeyword? with
  | some side => .ok side
  | none =>
    invalid filter arg
      ("unknown direction `" ++ arg.text ++ "`, expected `left`, `right` or `middle`")

/-- The operation of a call. A filter that takes a pattern has none. -/
def ofCall (call : FilterCall) : Except CompileError Operation :=
  match call.filter, call.args with
  | .lower, [] => .ok lower
  | .upper, [] => .ok upper
  | .lowerLocale, [] => .ok lowerLocale
  | .upperLocale, [] => .ok upperLocale
  | .trim, [] => .ok trim
  | .length, [] => .ok length
  | .left, [n] => return left (← count .left n)
  | .right, [n] => return right (← count .right n)
  | .mid, [start, n] => return mid (← count .mid start) (← count .mid n)
  | .slice, [start] => return slice (← position .slice start) none
  | .slice, [start, stop] =>
    return slice (← position .slice start) (some (← position .slice stop))
  | .truncate, [width] => return truncate (← count .truncate width) .right
  | .truncate, [width, side] =>
    return truncate (← count .truncate width) (← direction .truncate side)
  | .pad, [width] => return pad (← count .pad width) .right
  | .pad, [width, side] => return pad (← count .pad width) (← direction .pad side)
  | filter, args =>
    .error ⟨.argumentCount filter filter.arity.1 filter.arity.2 args.length, call.span⟩

/-- The filter that an operation is a call of. -/
def filter : Operation → Filter
  | lower => .lower
  | upper => .upper
  | lowerLocale => .lowerLocale
  | upperLocale => .upperLocale
  | trim => .trim
  | length => .length
  | left _ => .left
  | right _ => .right
  | mid .. => .mid
  | slice .. => .slice
  | truncate .. => .truncate
  | pad .. => .pad

def apply : Operation → Value → Value
  | lower => Value.lower
  | upper => Value.upper
  | lowerLocale => Value.lowerLocale
  | upperLocale => Value.upperLocale
  | trim => Value.trim
  | length => Value.length
  | left n => Value.left n
  | right n => Value.right n
  | mid start n => Value.mid start n
  | slice start stop => Value.slice start stop
  | truncate width side => Value.truncate width side
  | pad width side => Value.pad width side

end TextTemplate.Operation
