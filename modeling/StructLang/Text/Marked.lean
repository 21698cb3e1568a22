/-!
# Messages with their places

A message that was marked with a place ends in the word `at` and the place. Taking that away cuts
the text at the last such word, since the message itself may hold others.
-/

namespace StructLang.Text

/-- What stands before the last occurrence of a mark, if there is one. -/
def beforeLast? (mark : List Char) : List Char → Option (List Char)
  | [] => none
  | character :: rest =>
      match beforeLast? mark rest with
      | some before => some (character :: before)
      | none => if mark.isPrefixOf (character :: rest) then some [] else none

/-- The word that joins a message and its place. -/
def placeMark : List Char := [' ', 'a', 't', ' ']

/-- A message without the place it was marked with. -/
def withoutPlace (text : String) : String :=
  match beforeLast? placeMark text.toList with
  | some message => String.ofList message
  | none => text

end StructLang.Text
