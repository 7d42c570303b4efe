import TextTemplate.Text.Visible

/-!
Quoted texts as program source writes them: between double quotes, with a backslash before what
would end or change the literal, and with the code point in hexadecimal for what cannot be seen.
-/
namespace TextTemplate.Text

/-- A code point between braces, in lower-case hexadecimal without leading zeros. -/
def escapedCode (c : Char) : List Char :=
  '\\' :: 'u' :: '\x7b' :: Nat.toDigits 16 c.toNat ++ ['\x7d']

def escaped (c : Char) : List Char :=
  if c = '\x00' then ['\\', '0']
  else if c = '\t' then ['\\', 't']
  else if c = '\r' then ['\\', 'r']
  else if c = '\n' then ['\\', 'n']
  else if c = '"' then ['\\', '"']
  else if c = '\\' then ['\\', '\\']
  else if isVisible c then [c]
  else escapedCode c

def quotedChars (cs : List Char) : List Char :=
  '"' :: cs.flatMap escaped ++ ['"']

/-- The text as a string literal. -/
def quoted (s : String) : String :=
  String.ofList (quotedChars s.toList)

end TextTemplate.Text
