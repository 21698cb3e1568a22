/-!
# Matching braces

The end of a declaration is searched on the lines of a document by counting braces: it is the line
of the brace that closes the first one opened. Braces in comments count like all others.
-/

namespace StructLang

/-- How many braces are open, and whether any was opened yet. -/
structure BraceCount where
  depth : Int
  opened : Bool
  deriving DecidableEq, Repr

/-- Why a search for a brace cannot start: it would start before the first line, or at a number
that is too small for any line. -/
inductive BraceFault
  | noSuchLine
  | tooSmall
  deriving DecidableEq, Repr

/-- How a search that cannot start is reported. -/
def BraceFault.message : BraceFault → String
  | noSuchLine => "list index out of range"
  | tooSmall => "cannot fit 'int' into an index-sized integer"

/-- The least number that is looked up among lines. -/
def leastLineNumber : Int := -Int.pow 2 63

namespace BraceCount

/-- The count before the first line. -/
def initial : BraceCount := ⟨0, false⟩

/-- Counts the braces of a line; nothing is left to count once the first brace opened is
closed. -/
def line (count : BraceCount) : List Char → Option BraceCount
  | [] => some count
  | character :: rest =>
      if character = '\x7b' then line ⟨count.depth + 1, true⟩ rest
      else if character = '\x7d' then
        if count.opened ∧ count.depth = 1 then none
        else line ⟨count.depth - 1, count.opened⟩ rest
      else line count rest

/-- The number of the line on which the first brace opened is closed. -/
def search (count : BraceCount) : List (Int × String) → Option Int
  | [] => none
  | (number, text) :: others =>
      match count.line text.toList with
      | none => some number
      | some after => search after others

end BraceCount

/-- Lines with their numbers from a start on. A negative start counts from the last line back, and
the lines from the first one on follow again. -/
def linesFrom (lines : List String) (start : Int) : List (Int × String) :=
  let numbered := lines.zipIdx.map fun (text, index) => ((index : Int), text)
  if start < 0 then
    let back := numbered.map fun (number, text) => (number - lines.length, text)
    (back.filter fun (number, _) => start ≤ number) ++ numbered
  else numbered.filter fun (number, _) => start ≤ number

/-- The number of the line on which the first brace opened from a line on is closed, if there is
one. -/
def closingBraceLine? (lines : List String) (start : Int) : Except BraceFault (Option Int) :=
  if start < -lines.length then
    .error (if start < leastLineNumber then .tooSmall else .noSuchLine)
  else .ok (BraceCount.initial.search (linesFrom lines start))

end StructLang
