import TextTemplate.DatePattern.Basic

/-!
Reading date patterns. A directive is a per cent sign with a letter, between which the padding of
a single number may be chosen. Anything else that starts with a per cent sign is an error.
-/
namespace TextTemplate.DatePattern

def numberField? : Char → Option (NumberField × Padding)
  | 'C' => some (.century, .zero)
  | 'G' => some (.isoYear, .zero)
  | 'H' => some (.hour, .zero)
  | 'I' => some (.hour12, .zero)
  | 'M' => some (.minute, .zero)
  | 'S' => some (.second, .zero)
  | 'U' => some (.weekFromSunday, .zero)
  | 'V' => some (.isoWeek, .zero)
  | 'W' => some (.weekFromMonday, .zero)
  | 'Y' => some (.year, .zero)
  | 'd' => some (.day, .zero)
  | 'e' => some (.day, .space)
  | 'f' => some (.nanosecond, .zero)
  | 'g' => some (.isoYearOfCentury, .zero)
  | 'j' => some (.dayOfYear, .zero)
  | 'k' => some (.hour, .space)
  | 'l' => some (.hour12, .space)
  | 'm' => some (.month, .zero)
  | 'q' => some (.quarter, .none)
  | 's' => some (.timestamp, .none)
  | 'u' => some (.weekdayFromMonday, .none)
  | 'w' => some (.weekdayFromSunday, .none)
  | 'y' => some (.yearOfCentury, .zero)
  | _ => none

def textField? : Char → Option TextField
  | 'A' => some .weekdayName
  | 'B' => some .monthName
  | 'P' => some .lowerMeridiem
  | 'Z' | 'z' | '+' => some .zone
  | 'a' => some .shortWeekdayName
  | 'b' | 'h' => some .shortMonthName
  | 'p' => some .meridiem
  | _ => none

def slashDate : List Item :=
  [.number .month .zero, .literal '/', .number .day .zero, .literal '/',
   .number .yearOfCentury .zero]

def clock : List Item :=
  [.number .hour .zero, .literal ':', .number .minute .zero, .literal ':', .number .second .zero]

/-- The letters that stand for a character or for several items. -/
def composite? : Char → Option (List Item)
  | '%' => some [.literal '%']
  | 'n' => some [.literal '\n']
  | 't' => some [.literal '\t']
  | 'D' | 'x' => some slashDate
  | 'F' =>
    some [.number .year .zero, .literal '-', .number .month .zero, .literal '-',
      .number .day .zero]
  | 'R' => some [.number .hour .zero, .literal ':', .number .minute .zero]
  | 'T' | 'X' => some clock
  | 'c' =>
    some ([.text .shortWeekdayName, .literal ' ', .text .shortMonthName, .literal ' ',
      .number .day .space, .literal ' '] ++ clock ++ [.literal ' ', .number .year .zero])
  | 'r' =>
    some [.number .hour12 .zero, .literal ':', .number .minute .zero, .literal ':',
      .number .second .zero, .literal ' ', .text .meridiem]
  | 'v' =>
    some [.number .day .space, .literal '-', .text .shortMonthName, .literal '-',
      .number .year .zero]
  | _ => none

/-- The items of a directive of one letter. -/
def directive? (c : Char) : Option (List Item) :=
  match numberField? c with
  | some (field, padding) => some [.number field padding]
  | none =>
    match textField? c with
    | some field => some [.text field]
    | none => composite? c

/-- A single number with another padding than its own. -/
def padded? (padding : Padding) (c : Char) : Option (List Item) :=
  (numberField? c).map fun (field, _) => [.number field padding]

def items? : List Char → Option (List Item)
  | [] => some []
  | '%' :: '-' :: c :: cs => do return (← padded? .none c) ++ (← items? cs)
  | '%' :: '0' :: c :: cs => do return (← padded? .zero c) ++ (← items? cs)
  | '%' :: '_' :: c :: cs => do return (← padded? .space c) ++ (← items? cs)
  | '%' :: '#' :: 'z' :: cs => do return .text .zone :: (← items? cs)
  | '%' :: ':' :: 'z' :: cs => do return .text .zone :: (← items? cs)
  | '%' :: ':' :: ':' :: 'z' :: cs => do return .text .zone :: (← items? cs)
  | '%' :: ':' :: ':' :: ':' :: 'z' :: cs => do return .text .zone :: (← items? cs)
  | '%' :: '.' :: 'f' :: cs => do return .text .fraction :: (← items? cs)
  | '%' :: '.' :: '3' :: 'f' :: cs => do return .text (.fractionDigits 3 true) :: (← items? cs)
  | '%' :: '.' :: '6' :: 'f' :: cs => do return .text (.fractionDigits 6 true) :: (← items? cs)
  | '%' :: '.' :: '9' :: 'f' :: cs => do return .text (.fractionDigits 9 true) :: (← items? cs)
  | '%' :: '3' :: 'f' :: cs => do return .text (.fractionDigits 3 false) :: (← items? cs)
  | '%' :: '6' :: 'f' :: cs => do return .text (.fractionDigits 6 false) :: (← items? cs)
  | '%' :: '9' :: 'f' :: cs => do return .text (.fractionDigits 9 false) :: (← items? cs)
  | '%' :: c :: cs => do return (← directive? c) ++ (← items? cs)
  | ['%'] => none
  | c :: cs => do return .literal c :: (← items? cs)

end DatePattern

/-- The one way in which a date pattern can be wrong. -/
def DatePattern.errorMessage : String :=
  "unsupported or incomplete `%` specifier"

def DatePattern.parse? (pattern : String) : Option DatePattern :=
  (DatePattern.items? pattern.toList).map DatePattern.mk

end TextTemplate
