import TextTemplate.Calendar.DateTime
import TextTemplate.DatePattern.Basic

/-!
Writing a date as a pattern asks. It fails only where the pattern asks for a time zone.
-/
namespace TextTemplate.DatePattern

def monthNames : List String :=
  ["January", "February", "March", "April", "May", "June", "July", "August", "September",
   "October", "November", "December"]

def weekdayNames : List String :=
  ["Monday", "Tuesday", "Wednesday", "Thursday", "Friday", "Saturday", "Sunday"]

def nameChars (names : List String) (index : Nat) : List Char :=
  (names.getD index "").toList

/-- A byte in two digits. From a hundred on the first digit is the character that many places
behind the zero. -/
def twoDigits (value : Nat) (padding : Padding) : List Char :=
  let byte := value % 256
  let tens :=
    match byte / 10, padding with
    | 0, .none => []
    | 0, .space => [' ']
    | tens, _ => [Char.ofNat ('0'.toNat + tens)]
  tens ++ [Nat.digitChar (byte % 10)]

/-- An integer of at least `width` characters, of which its sign is one. -/
def signedDigits (width : Nat) (value : Int) (padding : Padding) (plus : Bool) : List Char :=
  let sign := if value < 0 then ['-'] else if plus then ['+'] else []
  let digits := Nat.toDigits 10 value.natAbs
  let missing := width - (sign.length + digits.length)
  match padding with
  | .none => sign ++ digits
  | .zero => sign ++ List.replicate missing '0' ++ digits
  | .space => List.replicate missing ' ' ++ sign ++ digits

/-- A year in four characters, or in five with a sign outside of the years 0 to 9999. -/
def yearDigits (year : Int) (padding : Padding) : List Char :=
  if 0 ≤ year ∧ year ≤ 9999 then signedDigits 4 year padding false
  else signedDigits 5 year padding true

/-- The hour on a dial, from 1 to 12. -/
def dialHour (hour : Nat) : Nat :=
  if hour % 12 = 0 then 12 else hour % 12

def numberChars (d : DateTime) (field : NumberField) (padding : Padding) : List Char :=
  match field with
  | .year => yearDigits d.year padding
  | .century => twoDigits (d.year / 100 % 256).toNat padding
  | .yearOfCentury => twoDigits (d.year % 100).toNat padding
  | .isoYear => yearDigits d.isoWeek.1 padding
  | .isoYearOfCentury => twoDigits (d.isoWeek.1 % 100).toNat padding
  | .quarter => [Nat.digitChar d.quarter]
  | .month => twoDigits d.month padding
  | .day => twoDigits d.day padding
  | .weekFromSunday => twoDigits d.weekFromSunday padding
  | .weekFromMonday => twoDigits d.weekFromMonday padding
  | .isoWeek => twoDigits d.isoWeek.2 padding
  | .weekdayFromSunday => [Nat.digitChar d.weekdayFromSunday]
  | .weekdayFromMonday => [Nat.digitChar (d.weekday + 1)]
  | .dayOfYear => signedDigits 3 d.dayOfYear padding false
  | .hour => twoDigits d.hour padding
  | .hour12 => twoDigits (dialHour d.hour) padding
  | .minute => twoDigits d.minute padding
  | .second => twoDigits d.shownSecond padding
  | .nanosecond => signedDigits 9 d.shownNanosecond padding false
  | .timestamp => signedDigits 9 d.timestamp padding false

def textChars? (d : DateTime) : TextField → Option (List Char)
  | .monthName => some (nameChars monthNames (d.month - 1))
  | .shortMonthName => some ((nameChars monthNames (d.month - 1)).take 3)
  | .weekdayName => some (nameChars weekdayNames d.weekday)
  | .shortWeekdayName => some ((nameChars weekdayNames d.weekday).take 3)
  | .meridiem => some (if d.hour < 12 then ['A', 'M'] else ['P', 'M'])
  | .lowerMeridiem => some (if d.hour < 12 then ['a', 'm'] else ['p', 'm'])
  | .fraction => some (DateTime.fractionChars d.shownNanosecond)
  | .fractionDigits count point =>
    let digits := Decimal.padded count (d.shownNanosecond / 10 ^ (9 - count))
    some (if point then '.' :: digits else digits)
  | .zone => none

def itemChars? (d : DateTime) : Item → Option (List Char)
  | .literal c => some [c]
  | .number field padding => some (numberChars d field padding)
  | .text field => textChars? d field

def formatChars? (d : DateTime) : List Item → Option (List Char)
  | [] => some []
  | item :: items => do return (← itemChars? d item) ++ (← formatChars? d items)

/-- The date as the pattern writes it, unless the pattern asks for a time zone. -/
def format? (p : DatePattern) (d : DateTime) : Option String :=
  (formatChars? d p.items).map String.ofList

end TextTemplate.DatePattern
