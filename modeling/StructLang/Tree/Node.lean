import StructLang.Position

/-!
# Nodes of a program tree

Every node of a program tree has a kind and a place in the source text. A node is identified by
its address, the way that leads to it from the root. A node that stands where no node of its kind
belongs is a stray: nothing is known about it but what a listing shows.
-/

namespace StructLang

/-- What a node of a program tree is. -/
inductive NodeKind
  | program
  | variableDecl
  | structDecl
  | functionDecl
  | mainDecl
  | accessorDecl
  | block
  | declareStmt
  | assignStmt
  | branchStmt
  | loopStmt
  | displayStmt
  | appendStmt
  | sizeStmt
  | callStmt
  | returnStmt
  | binaryExpr
  | unaryExpr
  | integerExpr
  | booleanExpr
  | nameExpr
  | groupExpr
  | indexExpr
  | memberExpr
  | sizeExpr
  | appendExpr
  | callExpr
  | absent
  deriving DecidableEq, Repr

namespace NodeKind

/-- The name under which a kind of node is shown in listings and messages. -/
def name : NodeKind → String
  | program => "Program"
  | variableDecl => "VarDecl"
  | structDecl => "StructDecl"
  | functionDecl => "FunctionDecl"
  | mainDecl => "MainDecl"
  | accessorDecl => "SetGetVarDecl"
  | block => "Block"
  | declareStmt => "VarDeclStmt"
  | assignStmt => "AssignStmt"
  | branchStmt => "IfStmt"
  | loopStmt => "WhileStmt"
  | displayStmt => "DisplayStmt"
  | appendStmt => "ListAppendStmt"
  | sizeStmt => "ListSizeStmt"
  | callStmt => "CallStmt"
  | returnStmt => "ReturnStmt"
  | binaryExpr => "BinaryExpr"
  | unaryExpr => "UnaryExpr"
  | integerExpr => "IntLiteral"
  | booleanExpr => "BoolLiteral"
  | nameExpr => "Identifier"
  | groupExpr => "ParenExpr"
  | indexExpr => "IndexExpr"
  | memberExpr => "FieldAccessExpr"
  | sizeExpr => "ListSizeExpr"
  | appendExpr => "ListAppendExpr"
  | callExpr => "CallExpr"
  | absent => "NoneType"

/-- Every kind of node that can stand in a tree. -/
def all : List NodeKind :=
  [program, variableDecl, structDecl, functionDecl, mainDecl, accessorDecl, block, declareStmt,
   assignStmt, branchStmt, loopStmt, displayStmt, appendStmt, sizeStmt, callStmt, returnStmt,
   binaryExpr, unaryExpr, integerExpr, booleanExpr, nameExpr, groupExpr, indexExpr, memberExpr,
   sizeExpr, appendExpr, callExpr]

/-- The kind that is shown under a name. -/
def ofName? (shown : String) : Option NodeKind :=
  all.find? (·.name == shown)

end NodeKind

/-- The way from the root of a tree to a node: the number of the child to enter at each step, the
last step first. -/
abbrev Address := List Nat

/-- A node as listings show it. The name is empty for kinds that have none. -/
structure Node where
  address : Address
  kind : NodeKind
  name : String
  position : Position
  deriving DecidableEq, Repr

/-- A node in a place where no node of its kind belongs, with what hangs below it. -/
inductive Stray
  | node (kind : NodeKind) (name : String) (position : Position) (below : List Stray)
  deriving Repr

namespace Stray

/-- The kind of a stray node. -/
def kind : Stray → NodeKind
  | node kind _ _ _ => kind

/-- The place of a stray node. -/
def position : Stray → Position
  | node _ _ position _ => position

mutual

/-- A stray node and all below it, each node before those below it. -/
def nodes (address : Address) : Stray → List Node
  | node kind name position below => ⟨address, kind, name, position⟩ :: nodesOf address 0 below

/-- The nodes of several strays, numbered from an index on. -/
def nodesOf (address : Address) (index : Nat) : List Stray → List Node
  | [] => []
  | head :: tail => nodes (index :: address) head ++ nodesOf address (index + 1) tail

end

end Stray

end StructLang
