import StructLang.Text.Lines

/-!
# Excerpts

A complaint is shown with the line of the source text it speaks of, and with a caret below the
column if that is known.
-/

namespace StructLang.Text

/-- A number of spaces; none for a negative number. -/
def spaces (count : Int) : String := String.ofList (List.replicate count.toNat ' ')

/-- A complaint about a line of a source text, and about a column of it if that is positive. A
line that the text does not have is not shown. -/
def excerpt (source file message : String) (line column : Int) : String :=
  let place := if 0 < column then s!"{file}:{line}:{column}" else s!"{file}:{line}"
  let shown? := if line < 1 then none else (lines source)[(line - 1).toNat]?
  match shown? with
  | none => s!"error: {message}\n --> {place}"
  | some shown =>
      let margin := spaces (toString line).length
      let caret := if 0 < column then s!"\n {margin} | {spaces (column - 1)}^" else ""
      s!"error: {message}\n {margin}--> {place}\n {margin} |\n {line} | {shown}{caret}"

/-- Why a caret cannot be placed: its column is beyond all text, or beyond all numbers of columns. -/
inductive ExcerptFault
  | beyondText
  | beyondNumbers
  deriving DecidableEq, Repr

/-- How a caret that cannot be placed is reported. -/
def ExcerptFault.message : ExcerptFault → String
  | beyondText => ""
  | beyondNumbers => "cannot fit 'int' into an index-sized integer"

/-- The greatest number of spaces that can stand before a caret. -/
def greatestIndent : Int := Int.pow 2 40

/-- The greatest number of spaces that can be spoken of. -/
def greatestCount : Int := Int.pow 2 63 - 1

/-- A complaint about any line and column; an excerpt is refused if it has a line to show but no
room for the caret. -/
def excerpt? (source file message : String) (line column : Int) : Except ExcerptFault String :=
  if 1 ≤ line ∧ line ≤ (lines source).length ∧ greatestIndent < column - 1 then
    .error (if greatestCount < column - 1 then .beyondNumbers else .beyondText)
  else .ok (excerpt source file message line column)

end StructLang.Text
