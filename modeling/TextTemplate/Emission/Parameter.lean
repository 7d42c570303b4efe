/-!
Names that can bind the context in emitted source. They are ASCII identifiers, but for the words
that the emitted language reserves and for the names that start like its locals.
-/
namespace TextTemplate.Emission

def reservedWords : List String :=
  ["as", "async", "await", "break", "const", "continue", "crate", "dyn", "else", "enum",
   "extern", "false", "fn", "for", "if", "impl", "in", "let", "loop", "match", "mod", "move",
   "mut", "pub", "ref", "return", "self", "Self", "static", "struct", "super", "trait", "true",
   "type", "unsafe", "use", "where", "while", "_"]

/-- Whether the characters are those of an identifier. -/
def isIdentifier : List Char → Bool
  | [] => false
  | c :: cs => (c.isAlpha || c == '_') && cs.all fun c => c.isAlphanum || c == '_'

/-- Whether two underscores stand in front, as they do in the emitted locals. -/
def isLocal : List Char → Bool
  | '_' :: '_' :: _ => true
  | _ => false

def isParameter (name : String) : Bool :=
  isIdentifier name.toList && !isLocal name.toList && !reservedWords.contains name

def defaultParameter : String := "obj"

end TextTemplate.Emission
