/-!
Patterns for dates, such as `%Y-%m-%d`. A pattern is a list of items: characters that stand for
themselves, numbers, and other parts of a date.
-/
namespace TextTemplate.DatePattern

inductive NumberField where
  | year
  | century
  | yearOfCentury
  | isoYear
  | isoYearOfCentury
  | quarter
  | month
  | day
  | weekFromSunday
  | weekFromMonday
  | isoWeek
  | weekdayFromSunday
  | weekdayFromMonday
  | dayOfYear
  | hour
  | hour12
  | minute
  | second
  | nanosecond
  | timestamp
deriving DecidableEq, Repr

/-- What fills a number up to its width. -/
inductive Padding where
  | none
  | zero
  | space
deriving DecidableEq, Repr

inductive TextField where
  | monthName
  | shortMonthName
  | weekdayName
  | shortWeekdayName
  | meridiem
  | lowerMeridiem
  /-- As many digits as the fraction of the second takes, or none. -/
  | fraction
  | fractionDigits (count : Nat) (point : Bool)
  /-- A part of a time zone, which a date without one cannot fill in. -/
  | zone
deriving DecidableEq, Repr

inductive Item where
  | literal (c : Char)
  | number (field : NumberField) (padding : Padding)
  | text (field : TextField)
deriving DecidableEq, Repr

end TextTemplate.DatePattern

namespace TextTemplate

structure DatePattern where
  items : List DatePattern.Item
deriving DecidableEq, Repr

end TextTemplate
