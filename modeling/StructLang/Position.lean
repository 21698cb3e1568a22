/-!
# Positions

A position is a line and a column, both counted from one in a source text. Trees that were not
read from a text may carry any integers.
-/

namespace StructLang

/-- A place in a source text. -/
structure Position where
  line : Int
  column : Int
  deriving DecidableEq, Repr

namespace Position

/-- The place of a node that no text gave a position. -/
def none : Position := ⟨0, 0⟩

/-- The place of the first character of a text. -/
def start : Position := ⟨1, 1⟩

/-- The place after reading one character. -/
def after (position : Position) (character : Char) : Position :=
  if character = '\n' then ⟨position.line + 1, 1⟩
  else ⟨position.line, position.column + 1⟩

/-- The place after reading a run of characters. -/
def afterAll (position : Position) (characters : List Char) : Position :=
  characters.foldl after position

@[simp] theorem afterAll_nil
    (position : Position) :
    position.afterAll [] = position := rfl

@[simp] theorem afterAll_cons
    (position : Position) (head : Char) (tail : List Char) :
    position.afterAll (head :: tail) = (position.after head).afterAll tail := rfl

theorem afterAll_append
    (position : Position) (initial final : List Char) :
    position.afterAll (initial ++ final) = (position.afterAll initial).afterAll final :=
  List.foldl_append

/-- A message followed by the place it speaks of. -/
def mark (position : Position) (message : String) : String :=
  s!"{message} at {position.line}:{position.column}"

end Position

end StructLang
