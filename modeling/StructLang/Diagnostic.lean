import StructLang.Text.Quoted

/-!
# Diagnostics

A diagnostic says what is wrong with a program: a kind, the line of the node it speaks of, and
the names that make its message concrete. A message is a template of fixed text and references to
those names by number.
-/

namespace StructLang

/-- What a diagnostic complains about. -/
inductive DiagnosticKind
  | duplicateStruct
  | duplicateFunction
  | duplicateVariable
  | functionStructConflict
  | variableStructConflict
  | variableFunctionConflict
  | cyclicDependency
  | variableNotDeclared
  | structNotDeclared
  | structMemberNotFound
  | unsupportedOperand
  | conditionNotBool
  | unsupportedDisplay
  | indexNotInt
  | indexOnNonList
  | memberOnNonStruct
  | sizeOfNonList
  | appendToNonList
  | elementMismatch
  | callOnNonFunction
  | argumentMismatch
  deriving DecidableEq, Repr

namespace DiagnosticKind

/-- The name under which a kind of diagnostic is shown. -/
def name : DiagnosticKind → String
  | duplicateStruct => "DuplicateStruct"
  | duplicateFunction => "DuplicateFunction"
  | duplicateVariable => "DuplicateVar"
  | functionStructConflict => "FunctionStructConflict"
  | variableStructConflict => "VarStructConflict"
  | variableFunctionConflict => "VarFunctionConflict"
  | cyclicDependency => "CyclicDependency"
  | variableNotDeclared => "VarNotDeclared"
  | structNotDeclared => "StructNotDeclared"
  | structMemberNotFound => "StructMemberNotFound"
  | unsupportedOperand => "UnsupportedOperandType"
  | conditionNotBool => "ConditionNotBool"
  | unsupportedDisplay => "UnsupportedTypeForDisplay"
  | indexNotInt => "ListIndexNotInt"
  | indexOnNonList => "AccessByIndexOnNonList"
  | memberOnNonStruct => "AccessOnNonStruct"
  | sizeOfNonList => "GetSizeOfNonList"
  | appendToNonList => "AppendToNonList"
  | elementMismatch => "NewElementTypeNotMatchListType"
  | callOnNonFunction => "CallOnNoneFptrType"
  | argumentMismatch => "ArgsInFunctionCallNotMatchDefinition"

/-- Every kind of diagnostic. -/
def all : List DiagnosticKind :=
  [duplicateStruct, duplicateFunction, duplicateVariable, functionStructConflict,
   variableStructConflict, variableFunctionConflict, cyclicDependency, variableNotDeclared,
   structNotDeclared, structMemberNotFound, unsupportedOperand, conditionNotBool,
   unsupportedDisplay, indexNotInt, indexOnNonList, memberOnNonStruct, sizeOfNonList,
   appendToNonList, elementMismatch, callOnNonFunction, argumentMismatch]

/-- The kind that is shown under a name. -/
def ofName? (shown : String) : Option DiagnosticKind :=
  all.find? (·.name == shown)

/-- How a name that no kind is shown under is reported. -/
def unknownNameMessage (shown : String) : String :=
  s!"{Text.quoted shown} is not a valid DiagnosticKind"

/-- Whether a kind complains about names; all others complain about types. -/
def isNameError : DiagnosticKind → Bool
  | duplicateStruct | duplicateFunction | duplicateVariable | functionStructConflict
  | variableStructConflict | variableFunctionConflict | cyclicDependency | variableNotDeclared
  | structNotDeclared | structMemberNotFound => true
  | _ => false

/-- Whether a kind complains about types. -/
def isTypeError (kind : DiagnosticKind) : Bool := !kind.isNameError

end DiagnosticKind

/-- A piece of a message: fixed text, or the name with a number. -/
inductive MessagePart
  | text (text : String)
  | name (index : Nat)
  deriving DecidableEq, Repr

namespace DiagnosticKind

/-- A message with one name between two texts. -/
def around (before after : String) : List MessagePart :=
  [.text before, .name 0, .text after]

/-- The message of a kind, with references to the names of a diagnostic. -/
def template : DiagnosticKind → List MessagePart
  | duplicateStruct => around "Redefinition of struct \"" "\""
  | duplicateFunction => around "Redefinition of function \"" "\""
  | duplicateVariable => around "Redefinition of variable \"" "\""
  | functionStructConflict => around "Name \"" "\" is used for both a function and a struct"
  | variableStructConflict => around "Variable \"" "\" conflicts with a struct name"
  | variableFunctionConflict => around "Variable \"" "\" conflicts with a function name"
  | cyclicDependency => around "Struct \"" "\" has a cyclic dependency"
  | variableNotDeclared => around "Variable \"" "\" is not declared"
  | structNotDeclared => around "Struct \"" "\" is not declared"
  | structMemberNotFound =>
      [.text "There is no member named \"", .name 1, .text "\" in struct \"", .name 0,
       .text "\""]
  | unsupportedOperand => [.text "Unsupported operand type for ", .name 0]
  | conditionNotBool => [.text "Condition type must be bool"]
  | unsupportedDisplay => [.text "Unsupported type for display"]
  | indexNotInt => [.text "List index must be of type int"]
  | indexOnNonList => [.text "Cannot access by index on a non-list value"]
  | memberOnNonStruct => [.text "Cannot access a member of a non-struct value"]
  | sizeOfNonList => [.text "Cannot get the size of a non-list value"]
  | appendToNonList => [.text "Cannot append to a non-list value"]
  | elementMismatch => [.text "New element type does not match the list element type"]
  | callOnNonFunction => [.text "Cannot call a value that is not a function pointer"]
  | argumentMismatch => [.text "Arguments in function call do not match the definition"]

end DiagnosticKind

/-- A complaint about a program. -/
structure Diagnostic where
  kind : DiagnosticKind
  line : Int
  names : List String
  deriving DecidableEq, Repr

/-- A message that refers to a name which its diagnostic lacks. -/
structure MissingName where
  index : Nat
  deriving DecidableEq, Repr

/-- How a missing name is reported. -/
def MissingName.message (missing : MissingName) : String :=
  s!"Replacement index {missing.index} out of range for positional args tuple"

namespace MessagePart

/-- The text of a piece, given the names of a diagnostic. -/
def fill (names : List String) : MessagePart → Except MissingName String
  | text fixed => .ok fixed
  | name index =>
      match names[index]? with
      | some found => .ok found
      | none => .error ⟨index⟩

end MessagePart

namespace Diagnostic

/-- The message of a diagnostic. The first reference that finds no name is reported. -/
def message (diagnostic : Diagnostic) : Except MissingName String := do
  let pieces ← diagnostic.kind.template.mapM (MessagePart.fill diagnostic.names)
  return String.join pieces

/-- The message of a diagnostic with its line. -/
def render (diagnostic : Diagnostic) : Except MissingName String := do
  let message ← diagnostic.message
  return s!"{message} at line {diagnostic.line}"

end Diagnostic

end StructLang
