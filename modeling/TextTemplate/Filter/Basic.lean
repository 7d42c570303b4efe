/-!
The fixed set of filters that may follow a bar in an interpolation.
-/
namespace TextTemplate

inductive Filter where
  | lower
  | upper
  | lowerLocale
  | upperLocale
  | trim
  | left
  | right
  | mid
  | slice
  | length
  | truncate
  | pad
  | number
  | time
deriving DecidableEq, Repr, Inhabited

/-- The two kinds of patterns. Equal texts of different families are different patterns. -/
inductive Family where
  | number
  | time
deriving DecidableEq, Repr, Inhabited

def Family.name : Family → String
  | number => "number"
  | time => "time"

namespace Filter

def name : Filter → String
  | lower => "lower"
  | upper => "upper"
  | lowerLocale => "lower-locale"
  | upperLocale => "upper-locale"
  | trim => "trim"
  | left => "left"
  | right => "right"
  | mid => "mid"
  | slice => "slice"
  | length => "length"
  | truncate => "truncate"
  | pad => "pad"
  | number => "number"
  | time => "time"

def all : List Filter :=
  [lower, upper, lowerLocale, upperLocale, trim, left, right, mid, slice, length, truncate, pad,
   number, time]

/-- The filter of this name, which has to match exactly. -/
def ofName? (name : String) : Option Filter :=
  all.find? fun filter => filter.name == name

/-- The least and the greatest number of arguments. -/
def arity : Filter → Nat × Nat
  | lower | upper | lowerLocale | upperLocale | trim | length => (0, 0)
  | left | right | number | time => (1, 1)
  | mid => (2, 2)
  | slice | truncate | pad => (1, 2)

/-- The family of the pattern that a filter takes, which must then be quoted. -/
def family? : Filter → Option Family
  | number => some .number
  | time => some .time
  | _ => none

theorem ofName?_name (filter : Filter) : ofName? filter.name = some filter := by
  cases filter <;> decide

end TextTemplate.Filter
