import StructLang.Expr.Check

/-!
# Checking statements

Each branch of an `if` has a scope of its own, and the condition is looked at inside the scope of
the first one. Blocks and loop bodies have none: what they declare belongs to the scope around
them. A variable may not have the name of a struct or function, nor be declared twice in one
scope; the first declaration is the one that counts.
-/

namespace StructLang

open Check

namespace VariableDecl

/-- Checks a declaration in the innermost scope. -/
def check (address : Address) (declaration : VariableDecl) : Check Unit := do
  let scopes := (← get).scopes
  let complain (kind : DiagnosticKind) : Check Unit :=
    report kind address declaration.position [declaration.name]
  if (scopes.lookupRoot? ⟨.structs, declaration.name⟩).isSome then
    complain .variableStructConflict
  if (scopes.lookupRoot? ⟨.functions, declaration.name⟩).isSome then
    complain .variableFunctionConflict
  if !(← tryInsert (.ofVariable declaration.name declaration.type)) then
    complain .duplicateVariable

/-- Checks the declaration of a field: if it has a struct's type, that struct is contained in the
one being looked at. -/
def checkField (address : Address) (declaration : VariableDecl) : Check Unit := do
  match declaration.type, (← get).currentStruct? with
  | .struct contained, some container =>
      modify fun state =>
        { state with containment := state.containment.addEdge contained container }
  | _, _ => pure ()
  declaration.check address

/-- Checks several declarations, numbered from an index on. -/
def checkAll (address : Address) (index : Nat) : List VariableDecl → Check Unit
  | [] => return
  | head :: tail => do
      head.check (index :: address)
      checkAll address (index + 1) tail

/-- Checks the declarations of several fields, numbered from an index on. -/
def checkFields (address : Address) (index : Nat) : List VariableDecl → Check Unit
  | [] => return
  | head :: tail => do
      head.checkField (index :: address)
      checkFields address (index + 1) tail

end VariableDecl

namespace Stmt

/-- Checks an expression and reports what is wrong with a statement that holds a value of its
type. -/
def checkValue (address : Address) (position : Position) (expression : Expr)
    (fault? : Ty → Option DiagnosticKind) : Check Unit := do
  let type ← expression.check (0 :: address)
  match fault? type with
  | some kind => report kind address position []
  | none => pure ()

mutual

/-- Checks a statement. -/
def check (address : Address) : Stmt → Check Unit
  | .absent => return
  | .block statements _ => checkAll address 0 statements
  | .declare declared _ => VariableDecl.checkAll address 0 declared
  | .assign target value position => do
      let targetType ← target.check (0 :: address)
      let valueType ← value.check (1 :: address)
      discard (settle address position (Rule.binaryOp .assign targetType valueType))
  | .branch condition thenBody elseBody position => do
      inNewScope do
        checkValue address position condition Rule.condition?
        check (1 :: address) thenBody
      match elseBody with
      | .absent => pure ()
      | otherBody => inNewScope (check (2 :: address) otherBody)
  | .loop condition body position => do
      checkValue address position condition Rule.condition?
      check (1 :: address) body
  | .display argument position => checkValue address position argument Rule.display?
  | .append expression _ => discard (expression.check (0 :: address))
  | .size expression _ => discard (expression.check (0 :: address))
  | .call expression _ => discard (expression.check (0 :: address))
  | .giveBack none _ => return
  | .giveBack (some value) _ => discard (value.check (0 :: address))
  | .accessor _ _ _ _ _ _ position => throw (.unexpectedStatement .accessorDecl position)
  | .stray node => throw (.unexpectedStatement node.kind node.position)

/-- Checks several statements, numbered from an index on. -/
def checkAll (address : Address) (index : Nat) : List Stmt → Check Unit
  | [] => return
  | head :: tail => do
      check (index :: address) head
      checkAll address (index + 1) tail

end

end Stmt

end StructLang
