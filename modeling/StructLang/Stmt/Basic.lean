import StructLang.Expr.Basic
import StructLang.Ty.Basic

/-!
# Statements

A statement is a tree over expressions. The members of a struct are statements too: declarations
of fields, and accessors, which are fields with a block for setting and one for getting. Two
constructors stand for what no text can produce in a statement's place: a node of some other kind,
and a missing statement; a missing statement also stands for a missing `else` or body.
-/

namespace StructLang

/-- A variable, field or parameter with its type. -/
structure VariableDecl where
  name : String
  type : Ty
  position : Position
  deriving DecidableEq, Repr

/-- A statement of the language, or a member of a struct. -/
inductive Stmt
  | block (statements : List Stmt) (position : Position)
  | declare (declared : List VariableDecl) (position : Position)
  | assign (target value : Expr) (position : Position)
  | branch (condition : Expr) (thenBody elseBody : Stmt) (position : Position)
  | loop (condition : Expr) (body : Stmt) (position : Position)
  | display (argument : Expr) (position : Position)
  | append (expression : Expr) (position : Position)
  | size (expression : Expr) (position : Position)
  | call (expression : Expr) (position : Position)
  | giveBack (value? : Option Expr) (position : Position)
  | accessor (name : String) (type : Ty) (parameters : List VariableDecl) (field : VariableDecl)
      (setBody getBody : Stmt) (position : Position)
  | stray (node : Stray)
  | absent
  deriving Repr

namespace VariableDecl

/-- The node of a declaration. -/
def node (address : Address) (declaration : VariableDecl) : Node :=
  ⟨address, .variableDecl, declaration.name, declaration.position⟩

/-- The nodes of several declarations, numbered from an index on. -/
def nodesOf (address : Address) (index : Nat) : List VariableDecl → List Node
  | [] => []
  | head :: tail => head.node (index :: address) :: nodesOf address (index + 1) tail

end VariableDecl

namespace Stmt

/-- The place of a statement. -/
def position : Stmt → Position
  | block _ position => position
  | declare _ position => position
  | assign _ _ position => position
  | branch _ _ _ position => position
  | loop _ _ position => position
  | display _ position => position
  | append _ position => position
  | size _ position => position
  | call _ position => position
  | giveBack _ position => position
  | accessor _ _ _ _ _ _ position => position
  | stray node => node.position
  | absent => .none

/-- What a statement is. -/
def kind : Stmt → NodeKind
  | block .. => .block
  | declare .. => .declareStmt
  | assign .. => .assignStmt
  | branch .. => .branchStmt
  | loop .. => .loopStmt
  | display .. => .displayStmt
  | append .. => .appendStmt
  | size .. => .sizeStmt
  | call .. => .callStmt
  | giveBack .. => .returnStmt
  | accessor .. => .accessorDecl
  | stray node => node.kind
  | absent => .absent

mutual

/-- A statement and all below it, each node before those below it, parts in the order of the
text. -/
def nodes (address : Address) : Stmt → List Node
  | block statements position =>
      ⟨address, .block, "", position⟩ :: nodesOf address 0 statements
  | declare declared position =>
      ⟨address, .declareStmt, "", position⟩ :: VariableDecl.nodesOf address 0 declared
  | assign target value position =>
      ⟨address, .assignStmt, "", position⟩ ::
        (target.nodes (0 :: address) ++ value.nodes (1 :: address))
  | branch condition thenBody elseBody position =>
      ⟨address, .branchStmt, "", position⟩ ::
        (condition.nodes (0 :: address) ++ nodes (1 :: address) thenBody ++
          nodes (2 :: address) elseBody)
  | loop condition body position =>
      ⟨address, .loopStmt, "", position⟩ ::
        (condition.nodes (0 :: address) ++ nodes (1 :: address) body)
  | display argument position =>
      ⟨address, .displayStmt, "", position⟩ :: argument.nodes (0 :: address)
  | append expression position =>
      ⟨address, .appendStmt, "", position⟩ :: expression.nodes (0 :: address)
  | size expression position =>
      ⟨address, .sizeStmt, "", position⟩ :: expression.nodes (0 :: address)
  | call expression position =>
      ⟨address, .callStmt, "", position⟩ :: expression.nodes (0 :: address)
  | giveBack value? position =>
      ⟨address, .returnStmt, "", position⟩ ::
        (value?.map (Expr.nodes (0 :: address))).getD []
  | accessor name _ parameters field setBody getBody position =>
      ⟨address, .accessorDecl, name, position⟩ ::
        (VariableDecl.nodesOf (0 :: address) 0 parameters ++ [field.node (1 :: address)] ++
          nodes (2 :: address) setBody ++ nodes (3 :: address) getBody)
  | stray node => node.nodes address
  | absent => []

/-- The nodes of several statements, numbered from an index on. -/
def nodesOf (address : Address) (index : Nat) : List Stmt → List Node
  | [] => []
  | head :: tail => nodes (index :: address) head ++ nodesOf address (index + 1) tail

end

end Stmt

end StructLang
