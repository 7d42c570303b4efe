import TextTemplate.FormatCache

/-!
Resolutions: computations that need formatters. One may fail, and it may add formatters to the
cache; what it added before it failed stays there. A list is resolved from its first element on,
up to the first failure.
-/
namespace TextTemplate

abbrev Resolution (α : Type) := FormatCache → Except CompileError α × FormatCache

namespace Resolution

variable {α β : Type}

/-- The outcome of a check that needs no formatter. -/
def ofExcept (outcome : Except CompileError α) : Resolution α :=
  fun cache => (outcome, cache)

def succeed (a : α) : Resolution α := ofExcept (.ok a)

def fail (e : CompileError) : Resolution α := ofExcept (.error e)

def bind (r : Resolution α) (f : α → Resolution β) : Resolution β :=
  fun cache =>
    match r cache with
    | (.ok a, cache) => f a cache
    | (.error e, cache) => (.error e, cache)

def map (f : α → β) (r : Resolution α) : Resolution β :=
  r.bind fun a => succeed (f a)

def traverse (f : α → Resolution β) : List α → Resolution (List β)
  | [] => succeed []
  | a :: as => bind (f a) fun b => map (b :: ·) (traverse f as)

/-- The position and the formatter of a pattern, which is at fault at a span if it cannot be
read. -/
def formatter (family : Family) (pattern : String) (span : Span) :
    Resolution (Nat × StoredFormatter) :=
  fun cache =>
    match cache.getOrInsert family pattern with
    | (.ok found, cache) => (.ok found, cache)
    | (.error e, cache) => (.error ⟨e.fault, span⟩, cache)

end TextTemplate.Resolution
