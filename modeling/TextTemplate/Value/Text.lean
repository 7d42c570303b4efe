import TextTemplate.Double.Text
import TextTemplate.Value.Basic

/-!
The text that a value is rendered as.
-/
namespace TextTemplate.Value

mutual

def chars : Value → List Char
  | undefined | null => []
  | bool b => if b then ['t', 'r', 'u', 'e'] else ['f', 'a', 'l', 's', 'e']
  | number x => x.valueChars
  | str s => s.toList
  | date d => d.chars
  | list items => itemChars items
  | object fields => '\x7b' :: fieldChars fields ++ ['\x7d']

/-- Items with commas between them. -/
def itemChars : List Value → List Char
  | [] => []
  | v :: vs => chars v ++ laterItemChars vs

def laterItemChars : List Value → List Char
  | [] => []
  | v :: vs => ',' :: chars v ++ laterItemChars vs

/-- Fields with their names, with a comma and a space between them. -/
def fieldChars : List (String × Value) → List Char
  | [] => []
  | (name, v) :: fields => name.toList ++ ':' :: ' ' :: chars v ++ laterFieldChars fields

def laterFieldChars : List (String × Value) → List Char
  | [] => []
  | (name, v) :: fields =>
    ',' :: ' ' :: name.toList ++ ':' :: ' ' :: chars v ++ laterFieldChars fields

end

def text (v : Value) : String := String.ofList v.chars

end TextTemplate.Value
