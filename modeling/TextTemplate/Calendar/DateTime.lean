import TextTemplate.Decimal.Basic

/-!
Dates with a time of day and no zone, in the proleptic Gregorian calendar. Days are counted from
1970-01-01. A leap second has its nanoseconds between one and two billion.
-/
namespace TextTemplate

structure DateTime where
  year : Int
  month : Nat
  day : Nat
  hour : Nat := 0
  minute : Nat := 0
  second : Nat := 0
  nanosecond : Nat := 0
deriving DecidableEq, Repr

namespace DateTime

def isLeapYear (year : Int) : Bool :=
  year % 4 == 0 && (year % 100 != 0 || year % 400 == 0)

def monthLengths (year : Int) : List Nat :=
  [31, if isLeapYear year then 29 else 28, 31, 30, 31, 30, 31, 31, 30, 31, 30, 31]

/-- The day number of the first of January. -/
def yearStart (year : Int) : Int :=
  let before := year - 1
  365 * before + before / 4 - before / 100 + before / 400 - 719162

/-- The day in the year, from one. -/
def dayOfYear (d : DateTime) : Nat :=
  ((monthLengths d.year).take (d.month - 1)).foldl (· + ·) d.day

def dayNumber (d : DateTime) : Int :=
  yearStart d.year + d.dayOfYear - 1

/-- The day in the week, from Monday, which is zero. -/
def weekday (d : DateTime) : Nat :=
  ((d.dayNumber + 3) % 7).toNat

/-- The day in the week, from Sunday, which is zero. -/
def weekdayFromSunday (d : DateTime) : Nat :=
  (d.weekday + 1) % 7

/-- The week of the year where weeks start on Sunday; the days before the first one are in week
zero. -/
def weekFromSunday (d : DateTime) : Nat :=
  (d.dayOfYear + 6 - d.weekdayFromSunday) / 7

/-- The week of the year where weeks start on Monday; the days before the first one are in week
zero. -/
def weekFromMonday (d : DateTime) : Nat :=
  (d.dayOfYear + 6 - d.weekday) / 7

/-- How many ISO weeks a year has: 53 if it starts on a Thursday, or on a Wednesday in a leap
year. -/
def isoWeeks (year : Int) : Nat :=
  let first := ((yearStart year + 3) % 7).toNat
  if first = 3 || (first = 2 && isLeapYear year) then 53 else 52

/-- The ISO year and week, where a week belongs to the year that its Thursday is in. -/
def isoWeek (d : DateTime) : Int × Nat :=
  let week := (d.dayOfYear + 9 - d.weekday) / 7
  if week = 0 then (d.year - 1, isoWeeks (d.year - 1))
  else if isoWeeks d.year < week then (d.year + 1, 1)
  else (d.year, week)

def quarter (d : DateTime) : Nat :=
  (d.month - 1) / 3 + 1

/-- The second of the minute, which is 60 in a leap second. -/
def shownSecond (d : DateTime) : Nat :=
  d.second + d.nanosecond / 1000000000

def shownNanosecond (d : DateTime) : Nat :=
  d.nanosecond % 1000000000

/-- Seconds since the start of 1970. -/
def timestamp (d : DateTime) : Int :=
  d.dayNumber * 86400 + d.hour * 3600 + d.minute * 60 + d.second

/-- The month and day of a day of the year, counted from zero, over the months of these lengths,
the first of which is `month`. -/
def monthDay (month : Nat) : List Nat → Nat → Nat × Nat
  | [], day => (month, day + 1)
  | length :: lengths, day =>
    if day < length then (month, day + 1) else monthDay (month + 1) lengths (day - length)

/-- The year that a day number is in, found by whole cycles of 400 years, centuries, spans of
four years and years. The bounds of three keep the leap day that ends a cycle or a span of four
years in the year before it. -/
def yearOf (dayNumber : Int) : Int :=
  let sinceCycle := dayNumber + 719162
  let cycle := sinceCycle / 146097
  let inCycle := (sinceCycle % 146097).toNat
  let centuries := min (inCycle / 36524) 3
  let inCentury := inCycle - centuries * 36524
  let fours := inCentury / 1461
  let years := min (inCentury % 1461 / 365) 3
  cycle * 400 + (centuries * 100 + fours * 4 + years : Nat) + 1

def minYear : Int := -262143
def maxYear : Int := 262142

/-- The instant that many milliseconds after the start of 1970, if its year is in range. -/
def ofMillis? (millis : Int) : Option DateTime :=
  let seconds := millis / 1000
  let days := seconds / 86400
  let inDay := (seconds % 86400).toNat
  let year := yearOf days
  if minYear ≤ year ∧ year ≤ maxYear then
    let (month, day) := monthDay 1 (monthLengths year) (days - yearStart year).toNat
    some
      { year, month, day, hour := inDay / 3600, minute := inDay / 60 % 60, second := inDay % 60
        nanosecond := (millis % 1000).toNat * 1000000 }
  else none

/-- The fraction of a second with its point: nothing, or as many of 3, 6 and 9 digits as it
takes. -/
def fractionChars (nanosecond : Nat) : List Char :=
  if nanosecond = 0 then []
  else if nanosecond % 1000000 = 0 then '.' :: Decimal.padded 3 (nanosecond / 1000000)
  else if nanosecond % 1000 = 0 then '.' :: Decimal.padded 6 (nanosecond / 1000)
  else '.' :: Decimal.padded 9 nanosecond

/-- A year in four digits; outside of the years 0 to 9999 a sign stands in front. -/
def yearChars (year : Int) : List Char :=
  let digits := Decimal.padded 4 year.natAbs
  if year < 0 then '-' :: digits else if 9999 < year then '+' :: digits else digits

/-- The date and time as a rendered value shows it. -/
def chars (d : DateTime) : List Char :=
  yearChars d.year ++ '-' :: Decimal.padded 2 d.month ++ '-' :: Decimal.padded 2 d.day ++
    ' ' :: Decimal.padded 2 d.hour ++ ':' :: Decimal.padded 2 d.minute ++
    ':' :: Decimal.padded 2 d.shownSecond ++ fractionChars d.shownNanosecond

end TextTemplate.DateTime
