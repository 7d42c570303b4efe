/-!
Sets of characters given by the inclusive ranges of their code points.
-/
namespace TextTemplate.Text

abbrev CodeRanges := List (Nat × Nat)

def CodeRanges.contains (ranges : CodeRanges) (c : Char) : Bool :=
  ranges.any fun (first, last) => first ≤ c.toNat && c.toNat ≤ last

end TextTemplate.Text
