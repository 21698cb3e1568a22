import StructLang.Layout.Shape
import StructLang.Program.Basic
import StructLang.Text.Quoted

/-!
# Shapes of programs

A listing of a program shows every node as a record of its parts, its line and its column.
-/

namespace StructLang

namespace Shape

/-- A text in quotes. -/
def ofText (text : String) : Shape := .atom (Text.quoted text)

/-- The record of a node. -/
def ofNode (kind : NodeKind) (position : Position) (fields : List (String × Shape)) : Shape :=
  .record kind.name <|
    fields ++
      [("line", .atom (toString position.line)), ("col", .atom (toString position.column))]

/-- Nothing where a node may stand. -/
def nothing : Shape := .atom "None"

end Shape

namespace Ty

mutual

/-- The shape of a type. -/
def shape : Ty → Shape
  | int => .record "IntType" []
  | bool => .record "BoolType" []
  | void => .record "VoidType" []
  | unknown => .record "NoType" []
  | generic => .record "Type" []
  | list element => .record "ListType" [("element", shape element)]
  | fptr parameters result =>
      .record "FptrType" [("params", .tuple (shapes parameters)), ("ret", shape result)]
  | struct name => .record "StructType" [("name", .ofText name)]

/-- The shapes of several types. -/
def shapes : List Ty → List Shape
  | [] => []
  | head :: tail => shape head :: shapes tail

end

end Ty

/-- The shape of an operator. -/
def Operator.shape : Operator → Shape
  | .absent => .nothing
  | operator => .atom ("<" ++ operator.title ++ ": " ++ Text.quoted operator.word ++ ">")

/-- The shape of a truth value. -/
def Shape.ofBool (value : Bool) : Shape := .atom (if value then "True" else "False")

namespace Expr

mutual

/-- The shape of an expression. -/
def shape : Expr → Shape
  | integer value position =>
      .ofNode .integerExpr position [("value", .atom (toString value))]
  | boolean value position => .ofNode .booleanExpr position [("value", .ofBool value)]
  | name called position => .ofNode .nameExpr position [("name", .ofText called)]
  | group items position => .ofNode .groupExpr position [("exprs", .list (shapes items))]
  | binary left operator right position =>
      .ofNode .binaryExpr position
        [("left", shape left), ("op", operator.shape), ("right", shape right)]
  | unary operator operand position =>
      .ofNode .unaryExpr position [("op", operator.shape), ("operand", shape operand)]
  | index list place position =>
      .ofNode .indexExpr position [("obj", shape list), ("index", shape place)]
  | member owner called position =>
      .ofNode .memberExpr position [("obj", shape owner), ("member", .ofText called)]
  | size list position => .ofNode .sizeExpr position [("arg", shape list)]
  | append list element position =>
      .ofNode .appendExpr position [("list_expr", shape list), ("element", shape element)]
  | call callee arguments position =>
      .ofNode .callExpr position
        [("callee", shape callee), ("args", .list (shapes arguments))]
  | stray node => .ofNode node.kind node.position []
  | absent => .nothing

/-- The shapes of several expressions. -/
def shapes : List Expr → List Shape
  | [] => []
  | head :: tail => shape head :: shapes tail

end

end Expr

/-- The shape of a declaration of a variable. -/
def VariableDecl.shape (declaration : VariableDecl) : Shape :=
  .ofNode .variableDecl declaration.position
    [("name", .ofText declaration.name), ("type", declaration.type.shape)]

namespace Stmt

mutual

/-- The shape of a statement. -/
def shape : Stmt → Shape
  | block statements position =>
      .ofNode .block position [("statements", .list (shapes statements))]
  | declare declared position =>
      .ofNode .declareStmt position [("vars", .list (declared.map (·.shape)))]
  | assign target value position =>
      .ofNode .assignStmt position [("lvalue", target.shape), ("rvalue", value.shape)]
  | branch condition thenBody elseBody position =>
      .ofNode .branchStmt position
        [("condition", condition.shape), ("then_body", shape thenBody),
         ("else_body", shape elseBody)]
  | loop condition body position =>
      .ofNode .loopStmt position [("condition", condition.shape), ("body", shape body)]
  | display argument position => .ofNode .displayStmt position [("arg", argument.shape)]
  | append expression position => .ofNode .appendStmt position [("expr", expression.shape)]
  | size expression position => .ofNode .sizeStmt position [("expr", expression.shape)]
  | call expression position => .ofNode .callStmt position [("call", expression.shape)]
  | giveBack value? position =>
      .ofNode .returnStmt position [("value", (value?.map Expr.shape).getD .nothing)]
  | accessor name type parameters field setBody getBody position =>
      .ofNode .accessorDecl position
        [("name", .ofText name), ("type", type.shape),
         ("params", .list (parameters.map (·.shape))), ("var_decl", field.shape),
         ("set_body", shape setBody), ("get_body", shape getBody)]
  | stray node => .ofNode node.kind node.position []
  | absent => .nothing

/-- The shapes of several statements. -/
def shapes : List Stmt → List Shape
  | [] => []
  | head :: tail => shape head :: shapes tail

end

end Stmt

/-- The shape of a struct. -/
def StructDecl.shape (declaration : StructDecl) : Shape :=
  .ofNode .structDecl declaration.position
    [("name", .ofText declaration.name),
     ("body", .ofNode .block declaration.bodyPosition
       [("statements", .list (Stmt.shapes declaration.members))])]

/-- The shape of a function. -/
def FunctionDecl.shape (declaration : FunctionDecl) : Shape :=
  .ofNode .functionDecl declaration.position
    [("name", .ofText declaration.name), ("return_type", declaration.result.shape),
     ("params", .list (declaration.parameters.map (·.shape))),
     ("body", declaration.body.shape)]

/-- The shape of a main body. -/
def MainDecl.shape (declaration : MainDecl) : Shape :=
  .ofNode .mainDecl declaration.position [("body", declaration.body.shape)]

namespace Program

/-- The shape of a program. -/
def shape (program : Program) : Shape :=
  .ofNode .program program.position
    [("structs", .list (program.structs.map (·.shape))),
     ("functions", .list (program.functions.map (·.shape))),
     ("main", (program.main?.map (·.shape)).getD .nothing)]

/-- The width of the lines of a listing. -/
def listingWidth : Nat := 80

/-- The listing of a program. -/
def listing (program : Program) : String := program.shape.format listingWidth 0 0

end Program

end StructLang
