import StructLang.Position

/-!
# Ranges of a document

Editors count lines and columns from zero, within limits. A range goes from one place up to
another.
-/

namespace StructLang

/-- A place in a document, counted from zero. -/
structure DocumentPlace where
  line : Int
  column : Int
  deriving DecidableEq, Repr

/-- A part of a document. -/
structure DocumentRange where
  start : DocumentPlace
  finish : DocumentPlace
  deriving DecidableEq, Repr

/-- Why numbers are no place in a document. -/
inductive PlaceFault
  | line (value : Int)
  | column (value : Int)
  deriving DecidableEq, Repr

namespace DocumentPlace

/-- The greatest number of a line or column. -/
def greatest : Int := 2147483647

/-- Whether a number may be that of a line or column. -/
def isInLimits (value : Int) : Bool := 0 ≤ value && value ≤ greatest

/-- The place with given numbers; the line is looked at first. -/
def of (line column : Int) : Except PlaceFault DocumentPlace :=
  if !isInLimits line then .error (.line line)
  else if !isInLimits column then .error (.column column)
  else .ok ⟨line, column⟩

/-- A number counted from one, counted from zero instead. -/
def fromOne (value : Int) : Int := max 0 (value - 1)

/-- The place of a position of the source text. -/
def ofPosition (position : Position) : Except PlaceFault DocumentPlace :=
  of (fromOne position.line) (fromOne position.column)

end DocumentPlace

/-- How numbers that are no place are reported. -/
def PlaceFault.message : PlaceFault → String
  | line value =>
      s!"Position.line should be in range [0:{DocumentPlace.greatest}], but was {value}."
  | column value =>
      s!"Position.character should be in range [0:{DocumentPlace.greatest}], but was {value}."

end StructLang
