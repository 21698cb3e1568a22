import StructLang.Program.Basic
import StructLang.Stmt.Read

/-!
# Programs from tokens

A program is a run of struct and function declarations with one main body after them. Tokens
after the first one that marks the end of the text are never looked at.
-/

namespace StructLang

open Reader

/-! ## Members of structs -/

/-- The blocks of an accessor that were read so far. -/
structure AccessorBlocks where
  setBody? : Option Stmt
  getBody? : Option Stmt

/-- Reads the blocks of an accessor, in either order and each at most once. -/
def readAccessorBlocks (finish : Token) (blocks : AccessorBlocks) (tokens : List Token) :
    Reading AccessorBlocks (tokens.length + 1) :=
  match tokens with
  | [] => .ok ⟨blocks, [], Nat.lt_succ_self _⟩
  | first :: others =>
      if first.kind = .rightBrace then .ok ⟨blocks, first :: others, Nat.lt_succ_self _⟩
      else if first.kind = .setWord ∧ blocks.setBody?.isNone then do
        let ⟨body, rest, _⟩ ← Stmt.readBlock finish others
        let ⟨blocks, rest, _⟩ ←
          readAccessorBlocks finish ⟨some body, blocks.getBody?⟩ rest
        return ⟨blocks, rest, by simp only [List.length_cons]; omega⟩
      else if first.kind = .getWord ∧ blocks.getBody?.isNone then do
        let ⟨body, rest, _⟩ ← Stmt.readBlock finish others
        let ⟨blocks, rest, _⟩ ←
          readAccessorBlocks finish ⟨blocks.setBody?, some body⟩ rest
        return ⟨blocks, rest, by simp only [List.length_cons]; omega⟩
      else .error (.grammar (.expected .accessorPart first))
termination_by tokens.length

/-- Reads an accessor from its parameters on. -/
def readAccessor (finish : Token) (type : Ty) (name : Token) (position : Position)
    (tokens : List Token) : Reading Stmt tokens.length := do
  let ⟨parameters, rest, _⟩ ← readParameters finish tokens
  let ⟨_, rest, _⟩ ← expectMark finish .leftBrace rest
  let ⟨blocks, rest, _⟩ ← readAccessorBlocks finish ⟨none, none⟩ rest
  let ⟨_, rest, _⟩ ← expectMark finish .rightBrace rest
  let missing (part : AccessorPart) : Reading Stmt tokens.length :=
    .error (.grammar (.missingPart name.text part (next finish rest).position))
  match blocks.setBody?, blocks.getBody? with
  | none, _ => missing .setPart
  | some _, none => missing .getPart
  | some setBody, some getBody =>
      let field : VariableDecl := ⟨name.text, type, name.position⟩
      return ⟨.accessor name.text type parameters field setBody getBody position, rest, by omega⟩

/-- Reads a member of a struct: fields of one type, or an accessor. -/
def readMember (finish : Token) (tokens : List Token) : Reading Stmt tokens.length :=
  if (next finish tokens).kind.startsType then do
    let position := (next finish tokens).position
    let ⟨type, rest, afterType⟩ ← Ty.read finish tokens
    let ⟨name, rest, afterName⟩ ← expectName finish .field rest
    if startsWith .leftParen rest then
      let ⟨member, rest, afterMember⟩ ← readAccessor finish type name position rest
      return ⟨member, rest, length_lt_of_three afterType afterName afterMember⟩
    else
      let ⟨names, rest, afterNames⟩ ← readNamesAfter finish .field name rest
      return ⟨.declare (variablesOfNames type names) position, rest,
        length_lt_of_three afterType afterName afterNames⟩
  else refuse finish (.expected .field) tokens

/-- Reads members up to a closing brace or the end. -/
def readMembers (finish : Token) (tokens : List Token) :
    Reading (List Stmt) (tokens.length + 1) :=
  match tokens with
  | [] => .ok ⟨[], [], Nat.lt_succ_self _⟩
  | first :: others =>
      if first.kind = .rightBrace then .ok ⟨[], first :: others, Nat.lt_succ_self _⟩
      else do
        let ⟨head, rest, afterHead⟩ ← readMember finish (first :: others)
        let ⟨tail, rest, afterTail⟩ ← readMembers finish rest
        return ⟨head :: tail, rest, Nat.lt_succ_of_lt (length_lt_of_optional afterHead afterTail)⟩
termination_by tokens.length
decreasing_by all_goals (simp only [List.length_cons]; omega)

/-! ## Declarations -/

/-- Reads what follows the word `struct`, which stands at a known place. -/
def readStruct (finish : Token) (position : Position) (tokens : List Token) :
    Reading StructDecl tokens.length := do
  let ⟨name, rest, _⟩ ← expectName finish .struct tokens
  let ⟨opening, rest, _⟩ ← expectMark finish .leftBrace rest
  let ⟨members, rest, _⟩ ← readMembers finish rest
  let ⟨_, rest, _⟩ ← expectMark finish .rightBrace rest
  return ⟨⟨name.text, members, opening.position, position⟩, rest, by omega⟩

/-- Reads what follows the word `func`, which stands at a known place. -/
def readFunction (finish : Token) (position : Position) (tokens : List Token) :
    Reading FunctionDecl tokens.length := do
  let ⟨name, rest, afterName⟩ ← expectName finish .function tokens
  let ⟨parameters, rest, afterParameters⟩ ← readParameters finish rest
  let ⟨result, rest, afterResult⟩ ← Ty.read finish rest
  let ⟨body, rest, afterBody⟩ ← Stmt.readBlock finish rest
  return ⟨⟨name.text, result, parameters, body, position⟩, rest,
    length_lt_of_four afterName afterParameters afterResult afterBody⟩

/-- Reads what follows the word `main`, which stands at a known place. -/
def readMain (finish : Token) (position : Position) (tokens : List Token) :
    Reading MainDecl tokens.length := do
  let ⟨body, rest, _⟩ ← Stmt.readBlock finish tokens
  return ⟨⟨body, position⟩, rest, by omega⟩

/-! ## Programs -/

namespace Program

/-- Adds the declarations of a run of tokens behind those of a program, up to the end of the
tokens. Nothing may follow the main body. -/
def readDeclarations (finish : Token) (program : Program) (tokens : List Token) :
    Except ReadFailure Program :=
  match tokens with
  | [] => .ok program
  | first :: others =>
      if program.main?.isSome then .error (.grammar (.afterMain first))
      else
        match first.kind with
        | .structWord => do
            let ⟨declaration, rest, _⟩ ← readStruct finish first.position others
            readDeclarations finish
              { program with structs := program.structs ++ [declaration] } rest
        | .funcWord => do
            let ⟨declaration, rest, _⟩ ← readFunction finish first.position others
            readDeclarations finish
              { program with functions := program.functions ++ [declaration] } rest
        | .mainWord => do
            let ⟨declaration, rest, _⟩ ← readMain finish first.position others
            readDeclarations finish { program with main? := some declaration } rest
        | _ => .error (.grammar (.expected .declaration first))
termination_by tokens.length
decreasing_by all_goals (simp only [List.length_cons]; omega)

/-- Reads a program from tokens without the one that marks their end. -/
def read (finish : Token) (tokens : List Token) : Except ReadFailure Program := do
  let program ← readDeclarations finish ⟨[], [], none, (next finish tokens).position⟩ tokens
  if program.main?.isNone then .error (.grammar (.missingMain finish.position))
  else return program

/-- Reads a program from the tokens before the first one that marks an end. -/
def ofTokens (tokens : List Token) : Except ReadFailure Program :=
  match tokens.dropWhile (·.kind != .finish) with
  | [] => .error .noTokens
  | finish :: _ => read finish (tokens.takeWhile (·.kind != .finish))

end Program

end StructLang
