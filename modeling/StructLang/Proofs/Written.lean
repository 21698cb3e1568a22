import StructLang.Program.Basic

/-!
# Trees as they are written

Trees that were read from a text are of a certain shape: nothing stray stands in them, nothing is
missing but an `else`, every operator fits its operands and every type can be written down.
Names come from words of the text, and no word holds the sign of made-up names.
-/

namespace StructLang

/-- A name without the sign that every made-up name has. -/
def PlainName (name : String) : Prop := '@' ∉ name.toList

/-! ## Types and expressions -/

namespace Ty

mutual

/-- A type that can be written down. -/
def Written : Ty → Prop
  | int | bool | void => True
  | struct name => PlainName name
  | unknown | generic => False
  | list element => Written element
  | fptr parameters result => WrittenAll parameters ∧ Written result

/-- Types that can be written down. -/
def WrittenAll : List Ty → Prop
  | [] => True
  | head :: tail => Written head ∧ WrittenAll tail

end

end Ty

namespace Expr

mutual

/-- An expression as it is written: every operator fits its operands, and only an assignment
assigns. -/
def Written : Expr → Prop
  | integer .. | boolean .. => True
  | name called _ => PlainName called
  | group items _ => items ≠ [] ∧ WrittenAll items
  | binary left operator right _ =>
      Written left ∧ Written right ∧ ∃ plain, operator = .binary plain ∧ plain ≠ .assign
  | unary operator operand _ => Written operand ∧ ∃ plain, operator = .unary plain
  | index list place _ => Written list ∧ Written place
  | member owner _ _ => Written owner
  | size list _ => Written list
  | append list element _ => Written list ∧ Written element
  | call callee arguments _ => Written callee ∧ WrittenAll arguments
  | stray _ | absent => False

/-- Expressions as they are written. -/
def WrittenAll : List Expr → Prop
  | [] => True
  | head :: tail => Written head ∧ WrittenAll tail

end

end Expr

/-! ## Statements -/

namespace VariableDecl

/-- A declaration as it is written. -/
def Written (declaration : VariableDecl) : Prop := declaration.type.Written

end VariableDecl

namespace Stmt

mutual

/-- A statement as it is written, outside of structs. -/
def Written : Stmt → Prop
  | block statements _ => WrittenAll statements
  | declare declared _ => ∀ declaration ∈ declared, declaration.Written
  | assign target value _ => target.Written ∧ value.Written
  | branch condition thenBody elseBody _ =>
      condition.Written ∧ Written thenBody ∧ (elseBody = absent ∨ Written elseBody)
  | loop condition body _ => condition.Written ∧ Written body
  | display argument _ => argument.Written
  | append expression _ | size expression _ | call expression _ => expression.Written
  | giveBack none _ => True
  | giveBack (some value) _ => value.Written
  | accessor .. | stray _ | absent => False

/-- Statements as they are written. -/
def WrittenAll : List Stmt → Prop
  | [] => True
  | head :: tail => Written head ∧ WrittenAll tail

end

/-- A member of a struct as it is written. What the blocks of an accessor hold is not said: no
check looks at it. -/
def WrittenMember : Stmt → Prop
  | declare fields _ => ∀ declaration ∈ fields, declaration.Written
  | accessor name type parameters field _ _ _ =>
      PlainName name ∧ type.Written ∧ (∀ declaration ∈ parameters, declaration.Written) ∧
        field.name = name ∧ field.type = type
  | _ => False

end Stmt

/-! ## Programs -/

/-- A struct as it is written. -/
structure StructDecl.Written (declaration : StructDecl) : Prop where
  name : PlainName declaration.name
  members : ∀ member ∈ declaration.members, member.WrittenMember

/-- A function as it is written. -/
structure FunctionDecl.Written (declaration : FunctionDecl) : Prop where
  name : PlainName declaration.name
  result : declaration.result.Written
  parameters : ∀ parameter ∈ declaration.parameters, parameter.Written
  body : declaration.body.Written

/-- A program as it is written. -/
structure Program.Written (program : Program) : Prop where
  structs : ∀ declaration ∈ program.structs, declaration.Written
  functions : ∀ declaration ∈ program.functions, declaration.Written
  main : ∃ declaration, program.main? = some declaration ∧ declaration.body.Written

end StructLang
