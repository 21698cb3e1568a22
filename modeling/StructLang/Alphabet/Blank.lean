import StructLang.Alphabet.Ranges

/-!
# Blanks

Two sets of blank characters: those that may stand between tokens, and those that may stand
around a numeral.
-/

namespace StructLang.Alphabet

/-- Whether a character may stand between two tokens: space, tab, line feed, carriage return. -/
def separatesTokens (character : Char) : Bool :=
  character == ' ' || character == '\t' || character == '\n' || character == '\r'

/-- Ranges of code points beyond ASCII that are white space (Unicode 14). -/
def wideBlankRanges : List (Nat × Nat) :=
  [(0x85, 0x85), (0xA0, 0xA0), (0x1680, 0x1680), (0x2000, 0x200A), (0x2028, 0x2029),
   (0x202F, 0x202F), (0x205F, 0x205F), (0x3000, 0x3000)]

/-- Whether a character may stand before or after a numeral: space, the ASCII controls from tab
to carriage return, and the white space beyond ASCII. -/
def surroundsNumeral (character : Char) : Bool :=
  if character.toNat < 128 then
    character.toNat == 32 || (9 ≤ character.toNat && character.toNat ≤ 13)
  else inRanges wideBlankRanges character

end StructLang.Alphabet
