import StructLang.Expr.Operator
import StructLang.Tree.Node

/-!
# Expressions

An expression is a tree with a place at every node. A compound expression that starts with
another expression has the place of that expression. Two constructors stand for what no text can
produce: a node of some other kind, and a missing expression.
-/

namespace StructLang

/-- An expression of the language. -/
inductive Expr
  | integer (value : Int) (position : Position)
  | boolean (value : Bool) (position : Position)
  | name (called : String) (position : Position)
  | group (items : List Expr) (position : Position)
  | binary (left : Expr) (operator : Operator) (right : Expr) (position : Position)
  | unary (operator : Operator) (operand : Expr) (position : Position)
  | index (list place : Expr) (position : Position)
  | member (owner : Expr) (called : String) (position : Position)
  | size (list : Expr) (position : Position)
  | append (list element : Expr) (position : Position)
  | call (callee : Expr) (arguments : List Expr) (position : Position)
  | stray (node : Stray)
  | absent
  deriving Repr

namespace Expr

/-- The place of an expression. -/
def position : Expr → Position
  | integer _ position => position
  | boolean _ position => position
  | name _ position => position
  | group _ position => position
  | binary _ _ _ position => position
  | unary _ _ position => position
  | index _ _ position => position
  | member _ _ position => position
  | size _ position => position
  | append _ _ position => position
  | call _ _ position => position
  | stray node => node.position
  | absent => .none

/-- What an expression is. -/
def kind : Expr → NodeKind
  | integer .. => .integerExpr
  | boolean .. => .booleanExpr
  | name .. => .nameExpr
  | group .. => .groupExpr
  | binary .. => .binaryExpr
  | unary .. => .unaryExpr
  | index .. => .indexExpr
  | member .. => .memberExpr
  | size .. => .sizeExpr
  | append .. => .appendExpr
  | call .. => .callExpr
  | stray node => node.kind
  | absent => .absent

mutual

/-- An expression and all below it, each node before those below it, operands from left to
right. -/
def nodes (address : Address) : Expr → List Node
  | integer _ position => [⟨address, .integerExpr, "", position⟩]
  | boolean _ position => [⟨address, .booleanExpr, "", position⟩]
  | name called position => [⟨address, .nameExpr, called, position⟩]
  | group items position =>
      ⟨address, .groupExpr, "", position⟩ :: nodesOf address 0 items
  | binary left _ right position =>
      ⟨address, .binaryExpr, "", position⟩ ::
        (nodes (0 :: address) left ++ nodes (1 :: address) right)
  | unary _ operand position =>
      ⟨address, .unaryExpr, "", position⟩ :: nodes (0 :: address) operand
  | index list place position =>
      ⟨address, .indexExpr, "", position⟩ ::
        (nodes (0 :: address) list ++ nodes (1 :: address) place)
  | member owner called position =>
      ⟨address, .memberExpr, called, position⟩ :: nodes (0 :: address) owner
  | size list position =>
      ⟨address, .sizeExpr, "", position⟩ :: nodes (0 :: address) list
  | append list element position =>
      ⟨address, .appendExpr, "", position⟩ ::
        (nodes (0 :: address) list ++ nodes (1 :: address) element)
  | call callee arguments position =>
      ⟨address, .callExpr, "", position⟩ ::
        (nodes (0 :: address) callee ++ nodesOf (1 :: address) 0 arguments)
  | stray node => node.nodes address
  | absent => []

/-- The nodes of several expressions, numbered from an index on. -/
def nodesOf (address : Address) (index : Nat) : List Expr → List Node
  | [] => []
  | head :: tail => nodes (index :: address) head ++ nodesOf address (index + 1) tail

end

end Expr

end StructLang
