import StructLang.Stmt.Basic

/-!
# Programs

A program declares structs and functions and has one main body. Only trees that were not read
from a text lack the main body, or hold something else than a block as the body of a function.
-/

namespace StructLang

/-- A struct: its members stand in a block with a place of its own. -/
structure StructDecl where
  name : String
  members : List Stmt
  bodyPosition : Position
  position : Position
  deriving Repr

/-- A function. -/
structure FunctionDecl where
  name : String
  result : Ty
  parameters : List VariableDecl
  body : Stmt
  position : Position
  deriving Repr

/-- The main body of a program. -/
structure MainDecl where
  body : Stmt
  position : Position
  deriving Repr

/-- A program of the language. -/
structure Program where
  structs : List StructDecl
  functions : List FunctionDecl
  main? : Option MainDecl
  position : Position
  deriving Repr

namespace StructDecl

/-- A struct declaration and all below it. -/
def nodes (address : Address) (declaration : StructDecl) : List Node :=
  [⟨address, .structDecl, declaration.name, declaration.position⟩,
    ⟨0 :: address, .block, "", declaration.bodyPosition⟩] ++
    Stmt.nodesOf (0 :: address) 0 declaration.members

end StructDecl

namespace FunctionDecl

/-- A function declaration and all below it. -/
def nodes (address : Address) (declaration : FunctionDecl) : List Node :=
  ⟨address, .functionDecl, declaration.name, declaration.position⟩ ::
    (VariableDecl.nodesOf (0 :: address) 0 declaration.parameters ++
      declaration.body.nodes (1 :: address))

end FunctionDecl

namespace MainDecl

/-- A main declaration and all below it. -/
def nodes (address : Address) (declaration : MainDecl) : List Node :=
  ⟨address, .mainDecl, "", declaration.position⟩ :: declaration.body.nodes (0 :: address)

end MainDecl

namespace Program

/-- The address of the struct declaration with a given number. -/
def structAddress (index : Nat) : Address := [index, 0]

/-- The address of the function declaration with a given number. -/
def functionAddress (index : Nat) : Address := [index, 1]

/-- The address of the main declaration. -/
def mainAddress : Address := [2]

/-- Every node of a program, each before those below it: the program itself, the structs, the
functions, the main body. -/
def nodes (program : Program) : List Node :=
  ⟨[], .program, "", program.position⟩ ::
    ((program.structs.mapIdx fun index declaration =>
        declaration.nodes (structAddress index)).flatten ++
      (program.functions.mapIdx fun index declaration =>
        declaration.nodes (functionAddress index)).flatten ++
      (program.main?.map (·.nodes mainAddress)).getD [])

end Program

end StructLang
