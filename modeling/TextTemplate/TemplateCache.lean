import TextTemplate.CompiledTemplate

/-!
The cache of compiled templates by source. A template that is compiled again after the cache was
cleared is another one: every stored template carries a serial number that no other one has.
-/
namespace TextTemplate

structure StoredTemplate where
  serial : Nat
  template : CompiledTemplate
deriving DecidableEq, Repr

structure TemplateCache where
  stored : List (String × StoredTemplate) := []
  /-- How many templates have ever been stored. -/
  built : Nat := 0
deriving DecidableEq, Repr

namespace TemplateCache

def empty : TemplateCache := {}

def get? (cache : TemplateCache) (source : String) : Option StoredTemplate :=
  cache.stored.lookup source

def push (cache : TemplateCache) (template : CompiledTemplate) : TemplateCache :=
  { stored := (template.source, ⟨cache.built, template⟩) :: cache.stored
    built := cache.built + 1 }

/-- The template of a source, compiled on the first request. A source that does not compile is
not stored. -/
def getOrCompile (cache : TemplateCache) (source : String) (formats : FormatCache) :
    Except CompileError StoredTemplate × TemplateCache × FormatCache :=
  match cache.get? source with
  | some stored => (.ok stored, cache, formats)
  | none =>
    match CompiledTemplate.compile source formats with
    | (.error e, formats) => (.error e, cache, formats)
    | (.ok template, formats) => (.ok ⟨cache.built, template⟩, cache.push template, formats)

def size (cache : TemplateCache) : Nat := cache.stored.length

def isEmpty (cache : TemplateCache) : Bool := cache.stored.isEmpty

/-- Drops every template. -/
def clear (cache : TemplateCache) : TemplateCache := { built := cache.built }

/-- A summary for people who debug. -/
def summary (cache : TemplateCache) : String :=
  "TemplateCache \x7b templates: " ++ toString cache.size ++ ", .. \x7d"

end TextTemplate.TemplateCache
