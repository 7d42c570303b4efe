import TextTemplate.Formatter

/-!
The cache of formatters. Each pattern of a family is built once and keeps its position until the
cache is cleared. A formatter that is built again after that is another one: every stored
formatter carries a serial number that no other one has.
-/
namespace TextTemplate

structure StoredFormatter where
  serial : Nat
  formatter : Formatter
deriving DecidableEq, Repr

/-- Where the patterns of one family are stored. -/
abbrev PatternIndex := List (String × Nat)

structure FormatCache where
  numbers : PatternIndex := []
  times : PatternIndex := []
  /-- In the order in which they were built. -/
  stored : List StoredFormatter := []
  /-- How many formatters have ever been built. -/
  built : Nat := 0
deriving DecidableEq, Repr

namespace FormatCache

def empty : FormatCache := {}

def index (cache : FormatCache) : Family → PatternIndex
  | .number => cache.numbers
  | .time => cache.times

def indexOf? (cache : FormatCache) (family : Family) (pattern : String) : Option Nat :=
  (cache.index family).lookup pattern

/-- The position of a stored formatter and the formatter. -/
def find? (cache : FormatCache) (family : Family) (pattern : String) :
    Option (Nat × StoredFormatter) := do
  let position ← cache.indexOf? family pattern
  return (position, ← cache.stored[position]?)

def get? (cache : FormatCache) (family : Family) (pattern : String) : Option StoredFormatter :=
  (cache.find? family pattern).map (·.2)

def withIndex (cache : FormatCache) (family : Family) (index : PatternIndex) : FormatCache :=
  match family with
  | .number => { cache with numbers := index }
  | .time => { cache with times := index }

/-- The cache with one more formatter, behind all others. -/
def push (cache : FormatCache) (formatter : Formatter) : FormatCache :=
  let family := formatter.family
  let entry := (formatter.pattern, cache.stored.length)
  { cache.withIndex family (entry :: cache.index family) with
    stored := cache.stored ++ [⟨cache.built, formatter⟩]
    built := cache.built + 1 }

/-- The formatter of a pattern with its position. It is built and stored on the first request; a
pattern that cannot be read changes nothing. -/
def getOrInsert (cache : FormatCache) (family : Family) (pattern : String) :
    Except FormatError (Nat × StoredFormatter) × FormatCache :=
  match cache.find? family pattern with
  | some found => (.ok found, cache)
  | none =>
    match Formatter.parse family pattern with
    | .error e => (.error e, cache)
    | .ok formatter =>
      (.ok (cache.stored.length, ⟨cache.built, formatter⟩), cache.push formatter)

/-- Family and pattern of every stored formatter, in construction order. -/
def entries (cache : FormatCache) : List (Family × String) :=
  cache.stored.map fun s => (s.formatter.family, s.formatter.pattern)

def size (cache : FormatCache) : Nat := cache.stored.length

def isEmpty (cache : FormatCache) : Bool := cache.stored.isEmpty

/-- Drops every formatter of both families. -/
def clear (cache : FormatCache) : FormatCache := { built := cache.built }

/-- A summary for people who debug. -/
def summary (cache : FormatCache) : String :=
  "FormatCache \x7b numbers: " ++ toString cache.numbers.length ++ ", times: " ++
    toString cache.times.length ++ " \x7d"

end TextTemplate.FormatCache
