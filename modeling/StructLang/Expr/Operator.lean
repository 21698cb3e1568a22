/-!
# Operators

Operators join one or two operands. A tree that was not read from a text may hold an operator of
the wrong number of operands, or none at all.
-/

namespace StructLang

/-- An operator between two operands. -/
inductive BinaryOp
  | add
  | subtract
  | multiply
  | divide
  | equal
  | greater
  | less
  | both
  | either
  | assign
  deriving DecidableEq, Repr

/-- An operator before one operand. -/
inductive UnaryOp
  | negate
  | invert
  deriving DecidableEq, Repr

/-- What stands in the operator's place of an expression. -/
inductive Operator
  | binary (operator : BinaryOp)
  | unary (operator : UnaryOp)
  | absent
  deriving DecidableEq, Repr

namespace BinaryOp

/-- The word for an operator in messages. -/
def word : BinaryOp → String
  | add => "add"
  | subtract => "sub"
  | multiply => "mult"
  | divide => "div"
  | equal => "eq"
  | greater => "gt"
  | less => "lt"
  | both => "and"
  | either => "or"
  | assign => "assign"

/-- Every operator between two operands. -/
def all : List BinaryOp :=
  [add, subtract, multiply, divide, equal, greater, less, both, either, assign]

/-- An operator with its family, as listings show it. -/
def title (operator : BinaryOp) : String :=
  s!"BinaryOp.{operator.word.toUpper}"

end BinaryOp

namespace UnaryOp

/-- The word for an operator in messages. -/
def word : UnaryOp → String
  | negate => "minus"
  | invert => "not"

/-- Every operator before one operand. -/
def all : List UnaryOp := [negate, invert]

/-- An operator with its family, as listings show it. -/
def title (operator : UnaryOp) : String :=
  s!"UnaryOp.{operator.word.toUpper}"

end UnaryOp

namespace Operator

/-- The word for an operator in messages. -/
def word : Operator → String
  | binary operator => operator.word
  | unary operator => operator.word
  | absent => "None"

/-- An operator with its family, as messages about misplaced operators show it. -/
def title : Operator → String
  | binary operator => operator.title
  | unary operator => operator.title
  | absent => "None"

/-- The operator that a word stands for. -/
def ofWord? (word : String) : Option Operator :=
  ((BinaryOp.all.map binary) ++ (UnaryOp.all.map unary)).find? (·.word == word)

end Operator

end StructLang
