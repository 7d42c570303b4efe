import TextTemplate.Text.CaseTables

/-!
Case conversion of whole texts. A character is mapped on its own, to one or several characters;
only the lower case of the capital sigma depends on where it stands: at the end of a word it is
the final sigma.
-/
namespace TextTemplate.Text

/-- The image of a character: its expansion if it has one, else its run, else itself. -/
def mapCase (runs : List CaseRun) (expansions : List (Nat × List Nat)) (c : Char) : List Char :=
  match expansions.lookup c.toNat with
  | some image => image.map Char.ofNat
  | none =>
    match runs.findSome? (·.map? c.toNat) with
    | some image => [Char.ofNat image]
    | none => [c]

def upperChar (c : Char) : List Char :=
  mapCase upperRuns upperExpansions c

def lowerChar (c : Char) : List Char :=
  mapCase lowerRuns lowerExpansions c

def toUpper (cs : List Char) : List Char :=
  cs.flatMap upperChar

/-- Whether the first character that is not case-ignorable is cased. -/
def meetsCased (cs : List Char) : Bool :=
  match cs.dropWhile caseIgnorableRanges.contains with
  | [] => false
  | c :: _ => casedRanges.contains c

/-- Lower case of `cs` where `before` holds the characters in front of it, last one first. -/
def lowerAfter (before : List Char) : List Char → List Char
  | [] => []
  | c :: rest =>
    let image :=
      if c == 'Σ' then
        if meetsCased before && !meetsCased rest then ['ς'] else ['σ']
      else lowerChar c
    image ++ lowerAfter (c :: before) rest

def toLower (cs : List Char) : List Char :=
  lowerAfter [] cs

end TextTemplate.Text
