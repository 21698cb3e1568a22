/-!
# Ranges of code points

A class of characters is written as a list of closed ranges of code points.
-/

namespace StructLang.Alphabet

/-- Whether the code point of a character lies in one of the ranges. -/
def inRanges (ranges : List (Nat × Nat)) (character : Char) : Bool :=
  ranges.any fun (first, last) => first ≤ character.toNat && character.toNat ≤ last

end StructLang.Alphabet
