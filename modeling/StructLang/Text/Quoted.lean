import StructLang.Alphabet.Printable

/-!
# Quoted text

Text is shown between single quotes, or between double quotes if it holds a single quote and no
double one. A backslash, the enclosing quote and every character that is not printable are
escaped: tab, line feed and carriage return by their letters, others by their code point in two,
four or eight hexadecimal digits.
-/

namespace StructLang.Text

/-- A number in hexadecimal digits, with zeros in front up to a width. -/
def hexadecimal (width number : Nat) : List Char :=
  let digits := Nat.toDigits 16 number
  List.replicate (width - digits.length) '0' ++ digits

/-- How one character is written between the given quotes. -/
def escaped (quote character : Char) : List Char :=
  if character = quote || character = '\\' then ['\\', character]
  else if character = '\t' then ['\\', 't']
  else if character = '\n' then ['\\', 'n']
  else if character = '\r' then ['\\', 'r']
  else if Alphabet.isPrintable character then [character]
  else if character.toNat < 0x100 then ['\\', 'x'] ++ hexadecimal 2 character.toNat
  else if character.toNat < 0x10000 then ['\\', 'u'] ++ hexadecimal 4 character.toNat
  else ['\\', 'U'] ++ hexadecimal 8 character.toNat

/-- The quote that encloses a text. -/
def enclosingQuote (characters : List Char) : Char :=
  if characters.contains '\'' && !characters.contains '"' then '"' else '\''

/-- A text between quotes. -/
def quoted (text : String) : String :=
  let characters := text.toList
  let quote := enclosingQuote characters
  String.ofList (quote :: characters.flatMap (escaped quote) ++ [quote])

end StructLang.Text
