/-!
# Parts of a text

A text is cut at every occurrence of a separator: it has one part more than separators.
-/

namespace StructLang.Text

/-- The parts of a list of characters between the occurrences of a separator. -/
def parts (separator : Char) : List Char → List (List Char)
  | [] => [[]]
  | character :: rest =>
      if character = separator then [] :: parts separator rest
      else
        match parts separator rest with
        | [] => [[character]]
        | part :: others => (character :: part) :: others

end StructLang.Text
