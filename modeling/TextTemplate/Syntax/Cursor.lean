import TextTemplate.CompileError
import TextTemplate.Syntax.Token

/-!
A place in the token list of one interpolation: the tokens ahead, and the empty span behind the
body, at which errors are reported when no token is ahead.
-/
namespace TextTemplate

structure Cursor where
  ahead : List Token
  finish : Span
deriving DecidableEq, Repr

namespace Cursor

def current? (c : Cursor) : Option Token := c.ahead.head?

def atEnd (c : Cursor) : Bool := c.ahead.isEmpty

def span (c : Cursor) : Span := c.current?.elim c.finish (·.span)

def check (kind : TokenKind) (c : Cursor) : Bool := c.current?.any (·.kind = kind)

/-- The next token, and the cursor behind it. -/
def bump (c : Cursor) : Option Token × Cursor :=
  (c.ahead.head?, { c with ahead := c.ahead.drop 1 })

/-- The next token if it is of this kind, and the cursor behind it. -/
def eat (kind : TokenKind) (c : Cursor) : Option Token × Cursor :=
  if c.check kind then c.bump else (none, c)

/-- The error that the next token is not what the grammar asks for. A quote that is never closed
is reported as such wherever it stands. -/
def unexpected (expected : Expected) (c : Cursor) : CompileError :=
  if c.check .openQuote then ⟨.unterminatedQuote, c.span⟩
  else ⟨.unexpectedToken (c.current?.elim "end of interpolation" (·.text)) expected, c.span⟩

end TextTemplate.Cursor
