import StructLang.Expr.Read
import StructLang.Stmt.Basic
import StructLang.Ty.Read

/-!
# Statements from tokens

A statement that starts with a type word, or with two names in a row, declares variables. One
that starts with no word of its own is an assignment, or a call or list operation for its own
sake. An `else` belongs to the nearest `if` that has none.
-/

namespace StructLang

open Reader

/-! ## Names and parameters -/

/-- Reads further names, each after a comma. -/
def readMoreNames (finish : Token) (thing : NamedThing) (tokens : List Token) :
    Reading (List Token) (tokens.length + 1) :=
  match accept .comma tokens with
  | none => .ok ⟨[], tokens, Nat.lt_succ_self _⟩
  | some ⟨_, rest, _⟩ => do
      let ⟨head, rest, _⟩ ← expectName finish thing rest
      let ⟨tail, rest, _⟩ ← readMoreNames finish thing rest
      return ⟨head :: tail, rest, by omega⟩
termination_by tokens.length

/-- Reads further names after a first one, and the semicolon that closes them. -/
def readNamesAfter (finish : Token) (thing : NamedThing) (first : Token) (tokens : List Token) :
    Reading (List Token) tokens.length := do
  let ⟨others, rest, _⟩ ← readMoreNames finish thing tokens
  let ⟨_, rest, _⟩ ← expectMark finish .semicolon rest
  return ⟨first :: others, rest, by omega⟩

/-- The variables of one type that names declare, each at the place of its name. -/
def variablesOfNames (type : Ty) (names : List Token) : List VariableDecl :=
  names.map fun name => ⟨name.text, type, name.position⟩

/-- Reads a parameter, which has the place of its type. -/
def readParameter (finish : Token) (tokens : List Token) :
    Reading VariableDecl tokens.length := do
  let ⟨type, rest, afterType⟩ ← Ty.read finish tokens
  let ⟨name, rest, afterName⟩ ← expectName finish .parameter rest
  return ⟨⟨name.text, type, (next finish tokens).position⟩, rest,
    length_lt_of_two afterType afterName⟩

/-- Reads further parameters, each after a comma. -/
def readMoreParameters (finish : Token) (tokens : List Token) :
    Reading (List VariableDecl) (tokens.length + 1) :=
  match accept .comma tokens with
  | none => .ok ⟨[], tokens, Nat.lt_succ_self _⟩
  | some ⟨_, rest, _⟩ => do
      let ⟨head, rest, _⟩ ← readParameter finish rest
      let ⟨tail, rest, _⟩ ← readMoreParameters finish rest
      return ⟨head :: tail, rest, by omega⟩
termination_by tokens.length

/-- Reads parameters in parentheses. -/
def readParameters (finish : Token) (tokens : List Token) :
    Reading (List VariableDecl) tokens.length := do
  let ⟨_, rest, afterOpening⟩ ← expectMark finish .leftParen tokens
  match accept .rightParen rest with
  | some ⟨_, rest, afterMark⟩ => return ⟨[], rest, length_lt_of_two afterOpening afterMark⟩
  | none =>
      let ⟨head, rest, afterHead⟩ ← readParameter finish rest
      let ⟨tail, rest, afterTail⟩ ← readMoreParameters finish rest
      let ⟨_, rest, afterMark⟩ ← expectMark finish .rightParen rest
      return ⟨head :: tail, rest,
        length_lt_of_enclosed afterOpening afterHead afterTail afterMark⟩

/-! ## Statements -/

namespace Stmt

/-- Whether the tokens start a declaration of variables: a type word, or two names in a row. -/
def startsDeclaration : List Token → Bool
  | [] => false
  | first :: others =>
      first.kind.isTypeWord || (first.kind == .identifier && startsWith .identifier others)

/-- The statement that an expression for its own sake is, if it may be one. -/
def ofExpression? (expression : Expr) (position : Position) : Option Stmt :=
  match expression with
  | .call .. => some (.call expression position)
  | .append .. => some (.append expression position)
  | .size .. => some (.size expression position)
  | _ => none

/-- Reads a declaration of variables. -/
def readDeclaration (finish : Token) (tokens : List Token) : Reading Stmt tokens.length := do
  let ⟨type, rest, _⟩ ← Ty.read finish tokens
  let ⟨first, rest, _⟩ ← expectName finish .localVariable rest
  let ⟨names, rest, _⟩ ← readNamesAfter finish .localVariable first rest
  return ⟨.declare (variablesOfNames type names) (next finish tokens).position, rest, by omega⟩

/-- Reads what follows the word `display`, which stands at a known place. -/
def readDisplay (finish : Token) (position : Position) (tokens : List Token) :
    Reading Stmt tokens.length := do
  let ⟨_, rest, afterOpening⟩ ←
    expect finish (.tokenAfter .leftParen .displayWord) .leftParen tokens
  let ⟨argument, rest, afterArgument⟩ ← Expr.read finish rest
  let ⟨_, rest, afterClosing⟩ ← expectMark finish .rightParen rest
  let ⟨_, rest, afterEnd⟩ ← expectMark finish .semicolon rest
  return ⟨.display argument position, rest,
    length_lt_of_four afterOpening afterArgument afterClosing afterEnd⟩

/-- Reads what follows the word `return`, which stands at a known place. -/
def readReturn (finish : Token) (position : Position) (tokens : List Token) :
    Reading Stmt tokens.length :=
  match accept .semicolon tokens with
  | some ⟨_, rest, shorter⟩ => .ok ⟨.giveBack none position, rest, shorter⟩
  | none => do
      let ⟨value, rest, afterValue⟩ ← Expr.read finish tokens
      let ⟨_, rest, afterEnd⟩ ← expectMark finish .semicolon rest
      return ⟨.giveBack (some value) position, rest, length_lt_of_two afterValue afterEnd⟩

/-- Reads an assignment, or an expression for its own sake. -/
def readSimple (finish : Token) (tokens : List Token) : Reading Stmt tokens.length := do
  let position := (next finish tokens).position
  let ⟨expression, rest, afterExpression⟩ ← Expr.read finish tokens
  match accept .assign rest with
  | some ⟨_, rest, afterMark⟩ =>
      let ⟨value, rest, afterValue⟩ ← Expr.read finish rest
      let ⟨_, rest, afterEnd⟩ ← expectMark finish .semicolon rest
      return ⟨.assign expression value position, rest,
        length_lt_of_four afterExpression afterMark afterValue afterEnd⟩
  | none =>
      let ⟨_, rest, afterEnd⟩ ← expectMark finish .semicolon rest
      match ofExpression? expression position with
      | some statement => return ⟨statement, rest, length_lt_of_two afterExpression afterEnd⟩
      | none => .error (.grammar (.plainValue position))

/-- Reads a condition in parentheses after a word. -/
def readCondition (finish : Token) (word : TokenKind) (tokens : List Token) :
    Reading Expr tokens.length := do
  let ⟨_, rest, _⟩ ← expect finish (.tokenAfter .leftParen word) .leftParen tokens
  let ⟨condition, rest, _⟩ ← Expr.read finish rest
  let ⟨_, rest, _⟩ ← expectMark finish .rightParen rest
  return ⟨condition, rest, by omega⟩

mutual

/-- Reads a statement. -/
def read (finish : Token) (tokens : List Token) : Reading Stmt tokens.length :=
  match tokens with
  | [] => readSimple finish []
  | first :: others =>
      match first.kind with
      | .leftBrace => readBlock finish (first :: others)
      | .ifWord => do
          let ⟨condition, rest, _⟩ ← readCondition finish .ifWord others
          let ⟨thenBody, rest, _⟩ ← read finish rest
          let ⟨elseBody, rest, _⟩ ← readElse finish rest
          return ⟨.branch condition thenBody elseBody first.position, rest, by
            simp only [List.length_cons]; omega⟩
      | .whileWord => do
          let ⟨condition, rest, _⟩ ← readCondition finish .whileWord others
          let ⟨body, rest, _⟩ ← read finish rest
          return ⟨.loop condition body first.position, rest, by
            simp only [List.length_cons]; omega⟩
      | .displayWord => do
          let ⟨statement, rest, _⟩ ← readDisplay finish first.position others
          return ⟨statement, rest, by simp only [List.length_cons]; omega⟩
      | .returnWord => do
          let ⟨statement, rest, _⟩ ← readReturn finish first.position others
          return ⟨statement, rest, by simp only [List.length_cons]; omega⟩
      | _ =>
          if startsDeclaration (first :: others) then readDeclaration finish (first :: others)
          else readSimple finish (first :: others)
termination_by (tokens.length, 1)

/-- Reads an `else` with its body, or nothing. -/
def readElse (finish : Token) (tokens : List Token) : Reading Stmt (tokens.length + 1) :=
  match accept .elseWord tokens with
  | none => .ok ⟨.absent, tokens, Nat.lt_succ_self _⟩
  | some ⟨_, rest, _⟩ => do
      let ⟨body, rest, _⟩ ← read finish rest
      return ⟨body, rest, by omega⟩
termination_by (tokens.length, 0)

/-- Reads statements in braces. -/
def readBlock (finish : Token) (tokens : List Token) : Reading Stmt tokens.length := do
  let ⟨opening, rest, _⟩ ← expectMark finish .leftBrace tokens
  let ⟨statements, rest, _⟩ ← readAll finish rest
  let ⟨_, rest, _⟩ ← expectMark finish .rightBrace rest
  return ⟨.block statements opening.position, rest, by omega⟩
termination_by (tokens.length, 0)

/-- Reads statements up to a closing brace or the end. -/
def readAll (finish : Token) (tokens : List Token) :
    Reading (List Stmt) (tokens.length + 1) :=
  match tokens with
  | [] => .ok ⟨[], [], Nat.lt_succ_self _⟩
  | first :: others =>
      if first.kind = .rightBrace then .ok ⟨[], first :: others, Nat.lt_succ_self _⟩
      else do
        let ⟨head, rest, _⟩ ← read finish (first :: others)
        let ⟨tail, rest, _⟩ ← readAll finish rest
        return ⟨head :: tail, rest, by omega⟩
termination_by (tokens.length, 2)

end

end Stmt

end StructLang
