import StructLang.Check.State
import StructLang.Expr.Basic

/-!
# Checking expressions

Every node of an expression gets one type, by the rule of its kind from the types of its parts.
Parts are checked from left to right.
-/

namespace StructLang.Expr

open Check

mutual

/-- Checks an expression and gives its type. -/
def check (address : Address) : Expr → Check Ty
  | .integer _ position => settle address position (.type .int)
  | .boolean _ position => settle address position (.type .bool)
  | .name called position => do
      let state ← get
      settle address position (Rule.name state.scopes state.withoutResult called)
  | .group items position => do
      let types ← checkAll address 0 items
      settle address position (Rule.group types)
  | .binary left operator right position => do
      let leftType ← check (0 :: address) left
      let rightType ← check (1 :: address) right
      match Rule.binary? operator leftType rightType with
      | some verdict => settle address position verdict
      | none => throw (.unknownOperator operator)
  | .unary operator operand position => do
      let operandType ← check (0 :: address) operand
      match Rule.unary? operator operandType with
      | some verdict => settle address position verdict
      | none => throw .missingOperator
  | .index list place position => do
      let listType ← check (0 :: address) list
      let placeType ← check (1 :: address) place
      settle address position (Rule.index listType placeType)
  | .member owner called position => do
      let ownerType ← check (0 :: address) owner
      settle address position (Rule.member (← get).scopes ownerType called)
  | .size list position => do
      let listType ← check (0 :: address) list
      settle address position (Rule.size listType)
  | .append list element position => do
      let listType ← check (0 :: address) list
      let elementType ← check (1 :: address) element
      settle address position (Rule.append listType elementType)
  | .call callee arguments position => do
      let calleeType ← check (0 :: address) callee
      let argumentTypes ← checkAll (1 :: address) 0 arguments
      settle address position (Rule.call calleeType argumentTypes)
  | .stray node => throw (.unexpectedExpression node.kind node.position)
  | .absent => throw (.unexpectedExpression .absent .none)

/-- Checks several expressions, numbered from an index on, and gives their types. -/
def checkAll (address : Address) (index : Nat) : List Expr → Check (List Ty)
  | [] => return []
  | head :: tail => do
      let headType ← check (index :: address) head
      let tailTypes ← checkAll address (index + 1) tail
      return headType :: tailTypes

end

end StructLang.Expr
