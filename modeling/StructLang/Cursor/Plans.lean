import StructLang.Cursor.Basic

/-!
# Plans for all constructs

One plan for each construct of the language, and one for each repetition in it. A plan looks at one
token to decide what comes, and at two where two names declare a variable or `void` may stand for
no parameters.

- `Task.plan` : how each task is done.
-/

namespace StructLang.Cursor.Plan

/-! ## Types and parameters -/

/-- A type. -/
def type : Plan Ty := do
  let first ← look
  if first.kind = .intWord then
    let _ ← take
    return .int
  else if first.kind = .boolWord then
    let _ ← take
    return .bool
  else if first.kind = .voidWord then
    let _ ← take
    return .void
  else if first.kind = .listWord then
    let _ ← take
    let _ ← expect (.tokenAfter .leftBracket .listWord) .leftBracket
    let element ← ask .type
    let _ ← expectMark .rightBracket
    return .list element
  else if first.kind = .fptrWord then ask .functionPointer
  else if first.kind = .identifier then
    let _ ← take
    return .struct first.text
  else refuse (.expected .type first)

/-- Types, each after a comma. -/
def moreTypes : Plan (List Ty) :=
  more (ask .type) (ask .moreTypes)

/-- The types between the angle and the arrow of a function pointer. -/
def parameterTypes : Plan (List Ty) := do
  if ← startsWithTwo .voidWord .arrow then
    let _ ← take
    return []
  else
    let head ← ask .type
    let tail ← ask .moreTypes
    return head :: tail

/-- The type of a function pointer. -/
def functionPointer : Plan Ty := do
  let _ ← expectMark .fptrWord
  let _ ← expect (.tokenAfter .less .fptrWord) .less
  let parameters ← parameterTypes
  let _ ← expectMark .arrow
  let result ← ask .type
  let _ ← expectMark .greater
  return .fptr parameters result

/-- A parameter, which has the place of its type. -/
def parameter : Plan VariableDecl := do
  let first ← look
  let type ← ask .type
  let name ← expectName .parameter
  return ⟨name.text, type, first.position⟩

/-- Parameters, each after a comma. -/
def moreParameters : Plan (List VariableDecl) :=
  more (ask .parameter) (ask .moreParameters)

/-- Parameters in parentheses. -/
def parameters : Plan (List VariableDecl) := do
  let _ ← expectMark .leftParen
  let first ← look
  if first.kind = .rightParen then
    let _ ← expectMark .rightParen
    return []
  else
    let head ← ask .parameter
    let tail ← ask .moreParameters
    let _ ← expectMark .rightParen
    return head :: tail

/-! ## Expressions -/

/-- An operand of the operators of a level: an expression whose operators bind tighter. -/
def operand : Precedence → Plan Expr
  | .disjunction => ask (.level .conjunction)
  | .conjunction => ask (.level .equality)
  | .equality => ask (.level .comparison)
  | .comparison => ask (.level .sum)
  | .sum => ask (.level .product)
  | .product => ask .unary

/-- An expression whose operators bind at least as tightly as a level. -/
def level (precedence : Precedence) : Plan Expr := do
  let left ← operand precedence
  ask (.operations precedence left)

/-- Operands after a left operand, each after an operator of a level. -/
def operations (precedence : Precedence) (left : Expr) : Plan Expr := do
  let token ← look
  match precedence.operator? token.kind with
  | none => return left
  | some operator =>
      let _ ← take
      let right ← operand precedence
      ask (.operations precedence (.binary left (.binary operator) right left.position))

/-- An operand with the unary operators before it. -/
def unary : Plan Expr := do
  let first ← look
  if first.kind = .bang then
    let _ ← take
    let operand ← ask .unary
    return .unary (.unary .invert) operand first.position
  else if first.kind = .minus then
    let _ ← take
    let operand ← ask .unary
    return .unary (.unary .negate) operand first.position
  else ask .suffixed

/-- A primary expression with the calls, indices and members after it. -/
def suffixed : Plan Expr := do
  let operand ← ask .primary
  ask (.suffixes operand)

/-- One or more expressions with commas between them. -/
def items : Plan (List Expr) := do
  let head ← ask .expression
  let tail ← ask .moreExpressions
  return head :: tail

/-- Expressions, each after a comma. -/
def moreExpressions : Plan (List Expr) :=
  more (ask .expression) (ask .moreExpressions)

/-- The arguments of a call and the parenthesis that closes them. -/
def arguments : Plan (List Expr) := do
  let first ← look
  if first.kind = .rightParen then
    let _ ← expectMark .rightParen
    return []
  else
    let arguments ← items
    let _ ← expectMark .rightParen
    return arguments

/-- The calls, indices and members after an operand. -/
def suffixes (operand : Expr) : Plan Expr := do
  let first ← look
  if first.kind = .leftParen then
    let _ ← take
    let arguments ← arguments
    ask (.suffixes (.call operand arguments operand.position))
  else if first.kind = .leftBracket then
    let _ ← take
    let place ← ask .expression
    let _ ← expectMark .rightBracket
    ask (.suffixes (.index operand place operand.position))
  else if first.kind = .dot then
    let _ ← take
    let called ← expectName .member
    let whole ← ask (.afterDot operand called.text)
    ask (.suffixes whole)
  else return operand

/-- What follows a dot and a name: the argument of a list operation, or nothing. -/
def afterDot (owner : Expr) (called : String) : Plan Expr := do
  let first ← look
  if called = "append" ∧ first.kind = .leftParen then
    let _ ← take
    let element ← ask .expression
    let _ ← expectMark .rightParen
    return .append owner element owner.position
  else if called = "size" ∧ first.kind = .leftParen then
    let _ ← take
    let _ ← expectMark .rightParen
    return .size owner owner.position
  else return .member owner called owner.position

/-- A literal, a name, or one or more expressions in parentheses. -/
def primary : Plan Expr := do
  let first ← look
  if first.kind = .integer then
    let _ ← take
    match Text.readNumeral first.text with
    | .error fault => fail (.numeral fault)
    | .ok value => return .integer value first.position
  else if first.kind = .trueWord then
    let _ ← take
    return .boolean true first.position
  else if first.kind = .falseWord then
    let _ ← take
    return .boolean false first.position
  else if first.kind = .identifier then
    let _ ← take
    return .name first.text first.position
  else if first.kind = .leftParen then
    let _ ← take
    let items ← items
    let _ ← expectMark .rightParen
    return .group items first.position
  else refuse (.unexpected first)

/-! ## Statements -/

/-- Statements in braces. -/
def block : Plan Stmt := do
  let opening ← expectMark .leftBrace
  let statements ← ask .statements
  let _ ← expectMark .rightBrace
  return .block statements opening.position

/-- Statements up to a closing brace or an end. -/
def statements : Plan (List Stmt) :=
  upToBrace (ask .statement) (ask .statements)

/-- Whether a declaration of variables comes: a type word, or two names in a row. -/
def startsDeclaration : Plan Bool := do
  let first ← look
  if first.kind.isTypeWord then return true
  else startsWithTwo .identifier .identifier

/-- A statement. -/
def statement : Plan Stmt := do
  let first ← look
  if first.kind = .leftBrace then ask .block
  else if first.kind = .ifWord then ask .branch
  else if first.kind = .whileWord then ask .loop
  else if first.kind = .displayWord then ask .display
  else if first.kind = .returnWord then ask .giveBack
  else if ← startsDeclaration then ask .declaration
  else ask .simple

/-- Names, each after a comma. -/
def moreNames (thing : NamedThing) : Plan (List Token) :=
  more (expectName thing) (ask (.moreNames thing))

/-- Names after a first one, and the semicolon that closes them. -/
def namesAfter (thing : NamedThing) (first : Token) : Plan (List Token) := do
  let others ← ask (.moreNames thing)
  let _ ← expectMark .semicolon
  return first :: others

/-- A declaration of variables. -/
def declaration : Plan Stmt := do
  let first ← look
  let type ← ask .type
  let name ← expectName .localVariable
  let names ← namesAfter .localVariable name
  return .declare (variablesOfNames type names) first.position

/-- A condition in parentheses after a word. -/
def condition (word : TokenKind) : Plan Expr := do
  let _ ← expect (.tokenAfter .leftParen word) .leftParen
  let condition ← ask .expression
  let _ ← expectMark .rightParen
  return condition

/-- An `else` with its body, or nothing. -/
def elseBody : Plan Stmt := do
  match ← accept .elseWord with
  | none => return .absent
  | some _ => ask .statement

/-- An `if` with its condition and its bodies. -/
def branch : Plan Stmt := do
  let word ← expectMark .ifWord
  let condition ← condition .ifWord
  let thenBody ← ask .statement
  let elseBody ← elseBody
  return .branch condition thenBody elseBody word.position

/-- A `while` with its condition and its body. -/
def loop : Plan Stmt := do
  let word ← expectMark .whileWord
  let condition ← condition .whileWord
  let body ← ask .statement
  return .loop condition body word.position

/-- A `display` with its argument. -/
def display : Plan Stmt := do
  let word ← expectMark .displayWord
  let argument ← condition .displayWord
  let _ ← expectMark .semicolon
  return .display argument word.position

/-- A `return` with its value, if it has one. -/
def giveBack : Plan Stmt := do
  let word ← expectMark .returnWord
  let first ← look
  if first.kind = .semicolon then
    let _ ← expectMark .semicolon
    return .giveBack none word.position
  else
    let value ← ask .expression
    let _ ← expectMark .semicolon
    return .giveBack (some value) word.position

/-- An assignment, or an expression for its own sake. -/
def simple : Plan Stmt := do
  let first ← look
  let expression ← ask .expression
  match ← accept .assign with
  | some _ =>
      let value ← ask .expression
      let _ ← expectMark .semicolon
      return .assign expression value first.position
  | none =>
      let _ ← expectMark .semicolon
      match Stmt.ofExpression? expression first.position with
      | some statement => return statement
      | none => refuse (.plainValue first.position)

/-! ## Declarations -/

/-- A struct. -/
def struct : Plan StructDecl := do
  let word ← expectMark .structWord
  let name ← expectName .struct
  let opening ← expectMark .leftBrace
  let members ← ask .members
  let _ ← expectMark .rightBrace
  return ⟨name.text, members, opening.position, word.position⟩

/-- Members of a struct up to a closing brace or an end. -/
def members : Plan (List Stmt) :=
  upToBrace (ask .member) (ask .members)

/-- A member of a struct: fields of one type, or an accessor. -/
def member : Plan Stmt := do
  let first ← look
  if first.kind.startsType then
    let type ← ask .type
    let name ← expectName .field
    let further ← look
    if further.kind = .leftParen then ask (.accessor type name first.position)
    else
      let names ← namesAfter .field name
      return .declare (variablesOfNames type names) first.position
  else refuse (.expected .field first)

/-- The blocks of an accessor that are not read yet, in either order. -/
def accessorBlocks (blocks : AccessorBlocks) : Plan AccessorBlocks := do
  let first ← look
  if first.kind = .rightBrace ∨ first.kind = .finish then return blocks
  else if first.kind = .setWord ∧ blocks.setBody?.isNone then
    let _ ← take
    let body ← ask .block
    ask (.accessorBlocks ⟨some body, blocks.getBody?⟩)
  else if first.kind = .getWord ∧ blocks.getBody?.isNone then
    let _ ← take
    let body ← ask .block
    ask (.accessorBlocks ⟨blocks.setBody?, some body⟩)
  else refuse (.expected .accessorPart first)

/-- An accessor from its parameters on. -/
def accessor (type : Ty) (name : Token) (position : Position) : Plan Stmt := do
  let parameters ← ask .parameters
  let _ ← expectMark .leftBrace
  let blocks ← ask (.accessorBlocks ⟨none, none⟩)
  let _ ← expectMark .rightBrace
  match blocks.setBody?, blocks.getBody? with
  | none, _ =>
      let found ← look
      refuse (.missingPart name.text .setPart found.position)
  | some _, none =>
      let found ← look
      refuse (.missingPart name.text .getPart found.position)
  | some setBody, some getBody =>
      let field : VariableDecl := ⟨name.text, type, name.position⟩
      return .accessor name.text type parameters field setBody getBody position

/-- A function. -/
def function : Plan FunctionDecl := do
  let word ← expectMark .funcWord
  let name ← expectName .function
  let parameters ← ask .parameters
  let result ← ask .type
  let body ← ask .block
  return ⟨name.text, result, parameters, body, word.position⟩

/-- The main body. -/
def main : Plan MainDecl := do
  let word ← expectMark .mainWord
  let body ← ask .block
  return ⟨body, word.position⟩

/-- Declarations behind those of a program, up to an end. Nothing may follow the main body. -/
def declarations (program : Program) : Plan Program := do
  let first ← look
  if first.kind = .finish then return program
  else if program.main?.isSome then refuse (.afterMain first)
  else if first.kind = .structWord then
    let declaration ← ask .struct
    ask (.declarations { program with structs := program.structs ++ [declaration] })
  else if first.kind = .funcWord then
    let declaration ← ask .function
    ask (.declarations { program with functions := program.functions ++ [declaration] })
  else if first.kind = .mainWord then
    let declaration ← ask .main
    ask (.declarations { program with main? := some declaration })
  else refuse (.expected .declaration first)

/-- A program. -/
def program : Plan Program := do
  let first ← look
  let program ← ask (.declarations ⟨[], [], none, first.position⟩)
  if program.main?.isNone then
    let found ← look
    refuse (.missingMain found.position)
  else return program

end StructLang.Cursor.Plan

namespace StructLang.Cursor

/-- How a task is done. -/
def Task.plan : (task : Task) → Plan task.Result
  | type => Plan.type
  | functionPointer => Plan.functionPointer
  | moreTypes => Plan.moreTypes
  | parameters => Plan.parameters
  | parameter => Plan.parameter
  | moreParameters => Plan.moreParameters
  | expression => Plan.ask (.level .disjunction)
  | level precedence => Plan.level precedence
  | operations precedence left => Plan.operations precedence left
  | unary => Plan.unary
  | suffixed => Plan.suffixed
  | suffixes operand => Plan.suffixes operand
  | afterDot owner called => Plan.afterDot owner called
  | moreExpressions => Plan.moreExpressions
  | primary => Plan.primary
  | block => Plan.block
  | statements => Plan.statements
  | statement => Plan.statement
  | declaration => Plan.declaration
  | moreNames thing => Plan.moreNames thing
  | branch => Plan.branch
  | loop => Plan.loop
  | display => Plan.display
  | giveBack => Plan.giveBack
  | simple => Plan.simple
  | struct => Plan.struct
  | members => Plan.members
  | member => Plan.member
  | accessor fieldType name position => Plan.accessor fieldType name position
  | accessorBlocks blocks => Plan.accessorBlocks blocks
  | function => Plan.function
  | main => Plan.main
  | declarations declared => Plan.declarations declared
  | program => Plan.program

end StructLang.Cursor
