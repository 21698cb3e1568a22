import Mathlib.Logic.Relation
import StructLang.Proofs.Check.Structs

/-!
# Well-formed programs

What makes a program well-formed is said here without any check: which names must differ, which
structs have a finite size, and which types expressions have. No expression has the unknown type,
and one whose parts have no types has none either.
-/

namespace StructLang

/-! ## Types of expressions -/

namespace Program

mutual

/-- An expression has a type inside nested regions of a program. -/
inductive HasType (program : Program) (regions : List Region) : Expr → Ty → Prop
  | integer {value : Int} {position : Position} :
      HasType program regions (.integer value position) .int
  | boolean {value : Bool} {position : Position} :
      HasType program regions (.boolean value position) .bool
  | ofVariable {called : String} {declaration : VariableDecl} {position : Position}
      (isNearest : Region.nearest? regions called = some declaration) :
      HasType program regions (.name called position) declaration.type
  | ofFunction {declaration : FunctionDecl} {position : Position}
      (noVariable : Region.nearest? regions declaration.name = none)
      (isThere : declaration ∈ program.functions) :
      HasType program regions (.name declaration.name position)
        (.fptr (declaration.parameters.map (·.type)) declaration.result)
  | group {items : List Expr} {type : Ty} {others : List Ty} {position : Position}
      (haveTypes : HaveTypes program regions items (type :: others)) :
      HasType program regions (.group items position) type
  | arithmetic {left right : Expr} {operator : BinaryOp} {position : Position}
      (isOperator : operator ∈ [.add, .subtract, .multiply, .divide])
      (ofLeft : HasType program regions left .int)
      (ofRight : HasType program regions right .int) :
      HasType program regions (.binary left (.binary operator) right position) .int
  | comparison {left right : Expr} {operator : BinaryOp} {position : Position}
      (isOperator : operator ∈ [.less, .greater])
      (ofLeft : HasType program regions left .int)
      (ofRight : HasType program regions right .int) :
      HasType program regions (.binary left (.binary operator) right position) .bool
  | equality {left right : Expr} {type : Ty} {position : Position}
      (isPlain : type ∈ [.int, .bool])
      (ofLeft : HasType program regions left type)
      (ofRight : HasType program regions right type) :
      HasType program regions (.binary left (.binary .equal) right position) .bool
  | connection {left right : Expr} {operator : BinaryOp} {position : Position}
      (isOperator : operator ∈ [.both, .either])
      (ofLeft : HasType program regions left .bool)
      (ofRight : HasType program regions right .bool) :
      HasType program regions (.binary left (.binary operator) right position) .bool
  | negation {operand : Expr} {position : Position}
      (ofOperand : HasType program regions operand .int) :
      HasType program regions (.unary (.unary .negate) operand position) .int
  | inversion {operand : Expr} {position : Position}
      (ofOperand : HasType program regions operand .bool) :
      HasType program regions (.unary (.unary .invert) operand position) .bool
  | element {list place : Expr} {type : Ty} {position : Position}
      (ofList : HasType program regions list (.list type))
      (ofPlace : HasType program regions place .int) :
      HasType program regions (.index list place position) type
  | field {owner : Expr} {called : String} {declaration : StructDecl} {field : VariableDecl}
      {position : Position}
      (ofOwner : HasType program regions owner (.struct declaration.name))
      (isThere : declaration ∈ program.structs)
      (isField : declaration.fields.declarationOf? called = some field) :
      HasType program regions (.member owner called position) field.type
  | size {list : Expr} {type : Ty} {position : Position}
      (ofList : HasType program regions list (.list type)) :
      HasType program regions (.size list position) .int
  | append {list element : Expr} {stored added : Ty} {position : Position}
      (ofList : HasType program regions list (.list stored))
      (ofElement : HasType program regions element added)
      (isAlike : added.sameKind stored) :
      HasType program regions (.append list element position) .void
  | call {callee : Expr} {arguments : List Expr} {parameters : List Ty} {result : Ty}
      {position : Position}
      (ofCallee : HasType program regions callee (.fptr parameters result))
      (ofArguments : HaveTypes program regions arguments parameters) :
      HasType program regions (.call callee arguments position) result

/-- Several expressions have types, one for one. -/
inductive HaveTypes (program : Program) (regions : List Region) : List Expr → List Ty → Prop
  | nil : HaveTypes program regions [] []
  | cons {head : Expr} {tail : List Expr} {type : Ty} {types : List Ty}
      (ofHead : HasType program regions head type)
      (ofTail : HaveTypes program regions tail types) :
      HaveTypes program regions (head :: tail) (type :: types)

end

end Program

/-! ## Statements -/

namespace Stmt

mutual

/-- All expressions of a statement have types, and those that the statement asks for. -/
def Typed (program : Program) (here : Region) (outer : List Region) : Stmt → Prop
  | block statements _ => TypedAll program here outer statements
  | assign target value _ =>
      ∃ type, program.HasType (here :: outer) target type ∧
        program.HasType (here :: outer) value type
  | branch condition thenBody elseBody _ =>
      program.HasType ([] :: here :: outer) condition .bool ∧
        Typed program [] (here :: outer) thenBody ∧ Typed program [] (here :: outer) elseBody
  | loop condition body _ =>
      program.HasType (here :: outer) condition .bool ∧ Typed program here outer body
  | display argument _ => ∃ type ∈ [Ty.int, .bool], program.HasType (here :: outer) argument type
  | append expression _ | size expression _ | call expression _ | giveBack (some expression) _ =>
      ∃ type, program.HasType (here :: outer) expression type
  | declare .. | giveBack none _ | accessor .. | stray _ | absent => True

/-- All expressions of several statements have types. Each statement sees what those before it
declare. -/
def TypedAll (program : Program) (here : Region) (outer : List Region) : List Stmt → Prop
  | [] => True
  | head :: tail =>
      Typed program here outer head ∧ TypedAll program (here ++ head.declares) outer tail

end

mutual

/-- The regions that the branches inside a statement make. -/
def branches : Stmt → List Region
  | block statements _ => branchesOf statements
  | branch _ thenBody elseBody _ =>
      thenBody.declares :: branches thenBody ++ elseBody.declares :: branches elseBody
  | loop _ body _ => branches body
  | declare .. | assign .. | display .. | append .. | size .. | call .. | giveBack .. | accessor ..
  | stray _ | absent => []

/-- The regions that the branches inside several statements make. -/
def branchesOf : List Stmt → List Region
  | [] => []
  | head :: tail => branches head ++ branchesOf tail

end

/-- The parameters of a member of a struct, if it is an accessor. -/
def accessorParameters : Stmt → List Region
  | accessor _ _ parameters _ _ _ _ => [parameters]
  | _ => []

end Stmt

/-! ## Programs -/

/-- The regions of a struct: its fields, and the parameters of each of its accessors. -/
def StructDecl.regions (declaration : StructDecl) : List Region :=
  declaration.fields :: declaration.members.flatMap Stmt.accessorParameters

/-- The regions of a function: the variables of its body with its parameters, and the variables of
each branch. -/
def FunctionDecl.regions (declaration : FunctionDecl) : List Region :=
  (declaration.body.declares ++ declaration.parameters) :: declaration.body.branches

/-- The regions of the main body: its variables, and the variables of each branch. -/
def MainDecl.regions (declaration : MainDecl) : List Region :=
  declaration.body.declares :: declaration.body.branches

namespace Program

/-- A struct has a field whose type is a struct. -/
def IsPartOf (program : Program) (part whole : String) : Prop :=
  ∃ declaration ∈ program.structs, declaration.name = whole ∧
    ∃ field ∈ declaration.fields, field.type = .struct part

/-- No two structs share a name and no two functions do, nor do a function and a struct. -/
structure NamesApart (program : Program) : Prop where
  structs : (program.structs.map (·.name)).Nodup
  functions : (program.functions.map (·.name)).Nodup
  between : ∀ declaration ∈ program.functions,
    declaration.name ∉ program.structs.map (·.name)

instance (program : Program) : Decidable program.NamesApart :=
  decidable_of_iff
    ((program.structs.map (·.name)).Nodup ∧ (program.functions.map (·.name)).Nodup ∧
      ∀ declaration ∈ program.functions, declaration.name ∉ program.structs.map (·.name))
    ⟨fun isSo => ⟨isSo.1, isSo.2.1, isSo.2.2⟩,
      fun names => ⟨names.structs, names.functions, names.between⟩⟩

/-- The names in a region are distinct, and none of them is that of a struct or a function. -/
structure ClearRegion (program : Program) (region : Region) : Prop where
  distinct : region.names.Nodup
  notStruct : ∀ name ∈ region.names, name ∉ program.structs.map (·.name)
  notFunction : ∀ name ∈ region.names, name ∉ program.functions.map (·.name)

instance (program : Program) (region : Region) : Decidable (program.ClearRegion region) :=
  decidable_of_iff
    (region.names.Nodup ∧ (∀ name ∈ region.names, name ∉ program.structs.map (·.name)) ∧
      ∀ name ∈ region.names, name ∉ program.functions.map (·.name))
    ⟨fun isSo => ⟨isSo.1, isSo.2.1, isSo.2.2⟩,
      fun clear => ⟨clear.distinct, clear.notStruct, clear.notFunction⟩⟩

/-- A function whose names are clear, whose result is declared if it is a struct, and in whose body
all expressions have types. -/
structure WellFormedFunction (program : Program) (declaration : FunctionDecl) : Prop where
  regions : ∀ region ∈ declaration.regions, program.ClearRegion region
  result : ∀ name, declaration.result = .struct name → name ∈ program.structs.map (·.name)
  typed : declaration.body.Typed program [] []

/-- A main body whose names are clear and in which all expressions have types. -/
structure WellFormedMain (program : Program) (declaration : MainDecl) : Prop where
  regions : ∀ region ∈ declaration.regions, program.ClearRegion region
  typed : declaration.body.Typed program [] []

/-- A program in which names are apart, the fields and parameters of structs are clear, no struct is
part of itself, directly or through others, and all functions and the main body are well-formed. -/
structure WellFormed (program : Program) : Prop where
  names : program.NamesApart
  structs : ∀ declaration ∈ program.structs, ∀ region ∈ declaration.regions,
    program.ClearRegion region
  finite : ∀ name, ¬ Relation.TransGen program.IsPartOf name name
  functions : ∀ declaration ∈ program.functions, program.WellFormedFunction declaration
  main : ∀ declaration, program.main? = some declaration → program.WellFormedMain declaration

end Program

end StructLang
