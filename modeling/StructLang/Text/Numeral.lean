import StructLang.Alphabet.Blank
import StructLang.Alphabet.Digit
import StructLang.Text.Quoted

/-!
# Decimal numerals

A numeral is a sign, which may be missing, and decimal digits of any script, with single
underscores allowed between them; blanks may surround it. It may have at most 4300 digits.
-/

namespace StructLang.Text

/-- Why a text is not read as an integer. -/
inductive NumeralFault
  | malformed (text : String)
  | tooLong (digits : Nat)
  deriving DecidableEq, Repr

/-- The greatest number of digits, leading zeros included, that a numeral may have. -/
def greatestDigitCount : Nat := 4300

/-- The greatest number of characters of a refused text that a message shows. -/
def greatestShownLength : Nat := 200

/-- What is wrong with a refused text. -/
def NumeralFault.message : NumeralFault → String
  | malformed text =>
      let shown := String.ofList ((quoted text).toList.take greatestShownLength)
      s!"invalid literal for int() with base 10: {shown}"
  | tooLong digits =>
      s!"Exceeds the limit ({greatestDigitCount} digits) for integer string conversion: " ++
      s!"value has {digits} digits; use sys.set_int_max_str_digits() to increase the limit"

/-- Whether a character belongs to the body of a numeral. -/
def isNumeralPart (character : Char) : Bool :=
  character == '_' || (Alphabet.decimalValue? character).isSome

/-- Whether every underscore stands between two digits. -/
def separatorsFit : List Char → Bool
  | [] => true
  | '_' :: _ => false
  | [_] => true
  | _ :: '_' :: rest => !rest.isEmpty && separatorsFit rest
  | _ :: next :: rest => separatorsFit (next :: rest)

/-- The number that a list of digits stands for. -/
def valueOfDigits (digits : List Nat) : Nat :=
  digits.foldl (fun value digit => 10 * value + digit) 0

/-- The integer a text stands for. -/
def readNumeral (text : String) : Except NumeralFault Int :=
  let trimmed := text.toList.dropWhile Alphabet.surroundsNumeral
  let (negative, unsigned) : Bool × List Char :=
    match trimmed with
    | '-' :: rest => (true, rest)
    | '+' :: rest => (false, rest)
    | rest => (false, rest)
  let body := unsigned.takeWhile isNumeralPart
  let digits := body.filterMap Alphabet.decimalValue?
  let trailing := unsigned.dropWhile isNumeralPart
  if !separatorsFit body then .error (.malformed text)
  else if greatestDigitCount < digits.length then .error (.tooLong digits.length)
  else if digits.isEmpty || !trailing.all Alphabet.surroundsNumeral then
    .error (.malformed text)
  else
    let value : Int := valueOfDigits digits
    .ok (if negative then -value else value)

end StructLang.Text
