import TextTemplate.Calendar.DateTime
import TextTemplate.Double.Nearest

/-!
The values that templates are rendered with. A missing property is `undefined`, an explicit
absence is `null`, and both are rendered as nothing. The fields of an object are sorted by name,
each name once.
-/
namespace TextTemplate

inductive Value where
  | undefined
  | null
  | bool (b : Bool)
  | number (x : Double)
  | str (s : String)
  | date (d : DateTime)
  | list (items : List Value)
  | object (fields : List (String × Value))
deriving Repr

namespace Value

instance : Inhabited Value := ⟨undefined⟩

def isNullish : Value → Bool
  | undefined | null => true
  | _ => false

def typeName : Value → String
  | undefined => "undefined"
  | null => "null"
  | bool _ => "bool"
  | number _ => "number"
  | str _ => "string"
  | date _ => "date"
  | list _ => "list"
  | object _ => "object"

/-- The position that a list index written in digits means. -/
def index? (key : String) : Option Nat :=
  let cs := key.toList
  if !cs.isEmpty && cs.all Char.isDigit then some (Nat.ofDigitChars 10 cs 0) else none

/-- One step of a path: a field of an object, or an element of a list. -/
def get? (v : Value) (key : String) : Option Value :=
  match v with
  | object fields => fields.lookup key
  | list items => (index? key).bind (items[·]?)
  | _ => none

/-- What a path leads to; a missing step leads to `undefined`. -/
def lookup (v : Value) : List String → Value
  | [] => v
  | key :: keys =>
    match v.get? key with
    | some w => w.lookup keys
    | none => undefined

/-- The value as a date. A number is the milliseconds since the start of 1970, of which a
fraction is cut off. -/
def date? : Value → Option DateTime
  | date d => some d
  | number (.finite negative m) =>
    DateTime.ofMillis? (if negative then -(m.floor : Int) else m.floor)
  | _ => none

/-- Sorted fields with one more, which takes the place of an older one of that name. -/
def insertField (name : String) (v : Value) : List (String × Value) → List (String × Value)
  | [] => [(name, v)]
  | (other, w) :: fields =>
    if name < other then (name, v) :: (other, w) :: fields
    else if name = other then (name, v) :: fields
    else (other, w) :: insertField name v fields

/-- The object with these fields; of two with one name the later one counts. -/
def ofPairs (pairs : List (String × Value)) : Value :=
  object (pairs.foldl (fun fields (name, v) => insertField name v fields) [])

def ofInt (n : Int) : Value := number (.ofInt n)

/-- A calendar date is midnight on that day. -/
def ofDate (year : Int) (month day : Nat) : Value := date { year, month, day }

def ofOption (v : Option Value) : Value := v.getD null

end TextTemplate.Value
