import StructLang.Text.Parts

/-!
# Lines

A text is split into lines at its line feeds: it has one line more than line feeds. A text that
was written elsewhere may end its lines with carriage returns, which count as line feeds.
-/

namespace StructLang.Text

/-- The lines of a text. -/
def lines (text : String) : List String :=
  (parts '\n' text.toList).map String.ofList

/-- Writes every end of a line, which may be a line feed, a carriage return or the two together,
as a line feed. -/
def unifyLineEnds : List Char → List Char
  | [] => []
  | '\r' :: '\n' :: rest => '\n' :: unifyLineEnds rest
  | '\r' :: rest => '\n' :: unifyLineEnds rest
  | character :: rest => character :: unifyLineEnds rest

end StructLang.Text
