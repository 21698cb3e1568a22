import StructLang.Expr.Basic
import StructLang.Reader.Basic

/-!
# Expressions from tokens

Binary operators bind in six levels and associate to the left; unary operators bind tighter, and
calls, indices and members after an operand tightest. After a dot, `append` and `size` before a
parenthesis are operations on lists, and any other name is a member.
-/

namespace StructLang

/-- The levels at which binary operators bind, the loosest first. -/
inductive Precedence
  | disjunction
  | conjunction
  | equality
  | comparison
  | sum
  | product
  deriving DecidableEq, Repr

namespace Precedence

/-- How many levels bind tighter. -/
@[simp] def rank : Precedence → Nat
  | disjunction => 5
  | conjunction => 4
  | equality => 3
  | comparison => 2
  | sum => 1
  | product => 0

/-- The operator that a token stands for at a level. -/
def operator? : Precedence → TokenKind → Option BinaryOp
  | disjunction, .either => some .either
  | conjunction, .both => some .both
  | equality, .equal => some .equal
  | comparison, .less => some .less
  | comparison, .greater => some .greater
  | sum, .plus => some .add
  | sum, .minus => some .subtract
  | product, .star => some .multiply
  | product, .slash => some .divide
  | _, _ => none

end Precedence

namespace Expr

open Reader

/-- The list operation that a name after a dot stands for, if a parenthesis follows. -/
inductive ListOperation
  | append
  | size
  deriving DecidableEq, Repr

/-- Decides what a name after a dot is, from the tokens that follow it. -/
def listOperation? (called : String) (tokens : List Token) : Option ListOperation :=
  if startsWith .leftParen tokens then
    if called = "append" then some .append
    else if called = "size" then some .size
    else none
  else none

mutual

/-- Reads an expression. -/
def read (finish : Token) (tokens : List Token) : Reading Expr tokens.length :=
  readLevel finish .disjunction tokens
termination_by (tokens.length, 16)

/-- Reads an expression whose operators bind at least as tightly as a level. -/
def readLevel (finish : Token) (level : Precedence) (tokens : List Token) :
    Reading Expr tokens.length := do
  let ⟨left, rest, _⟩ ← readOperand finish level tokens
  let ⟨whole, rest, _⟩ ← readOperations finish level left rest
  return ⟨whole, rest, by omega⟩
termination_by (tokens.length, 2 * level.rank + 5)

/-- Reads an operand of the operators of a level. -/
def readOperand (finish : Token) (level : Precedence) (tokens : List Token) :
    Reading Expr tokens.length :=
  match level with
  | .disjunction => readLevel finish .conjunction tokens
  | .conjunction => readLevel finish .equality tokens
  | .equality => readLevel finish .comparison tokens
  | .comparison => readLevel finish .sum tokens
  | .sum => readLevel finish .product tokens
  | .product => readUnary finish tokens
termination_by (tokens.length, 2 * level.rank + 4)

/-- Reads further operands after a left operand, each after an operator of a level. -/
def readOperations (finish : Token) (level : Precedence) (left : Expr) (tokens : List Token) :
    Reading Expr (tokens.length + 1) :=
  match tokens with
  | [] => .ok ⟨left, [], Nat.lt_succ_self _⟩
  | first :: others =>
      match level.operator? first.kind with
      | none => .ok ⟨left, first :: others, Nat.lt_succ_self _⟩
      | some operator => do
          let ⟨right, rest, afterRight⟩ ← readOperand finish level others
          let whole := .binary left (.binary operator) right left.position
          let ⟨whole, rest, afterWhole⟩ ← readOperations finish level whole rest
          return ⟨whole, rest,
            Nat.lt_succ_of_lt (Nat.lt_succ_of_lt (length_lt_of_optional afterRight afterWhole))⟩
termination_by (tokens.length, 0)

/-- Reads an operand with the unary operators before it. -/
def readUnary (finish : Token) (tokens : List Token) : Reading Expr tokens.length :=
  match tokens with
  | [] => readPostfix finish []
  | first :: others =>
      match first.kind with
      | .bang => do
          let ⟨operand, rest, _⟩ ← readUnary finish others
          return ⟨.unary (.unary .invert) operand first.position, rest, by
            simp only [List.length_cons]; omega⟩
      | .minus => do
          let ⟨operand, rest, _⟩ ← readUnary finish others
          return ⟨.unary (.unary .negate) operand first.position, rest, by
            simp only [List.length_cons]; omega⟩
      | _ => readPostfix finish (first :: others)
termination_by (tokens.length, 3)

/-- Reads a primary expression with the calls, indices and members after it. -/
def readPostfix (finish : Token) (tokens : List Token) : Reading Expr tokens.length := do
  let ⟨operand, rest, _⟩ ← readPrimary finish tokens
  let ⟨whole, rest, _⟩ ← readSuffixes finish operand rest
  return ⟨whole, rest, by omega⟩
termination_by (tokens.length, 2)

/-- Reads the calls, indices and members after an operand. -/
def readSuffixes (finish : Token) (operand : Expr) (tokens : List Token) :
    Reading Expr (tokens.length + 1) :=
  match tokens with
  | [] => .ok ⟨operand, [], Nat.lt_succ_self _⟩
  | first :: others =>
      match first.kind with
      | .leftParen => do
          let ⟨arguments, rest, _⟩ ← readArguments finish others
          let whole := .call operand arguments operand.position
          let ⟨whole, rest, _⟩ ← readSuffixes finish whole rest
          return ⟨whole, rest, by simp only [List.length_cons]; omega⟩
      | .leftBracket => do
          let ⟨place, rest, _⟩ ← read finish others
          let ⟨_, rest, _⟩ ← expectMark finish .rightBracket rest
          let whole := .index operand place operand.position
          let ⟨whole, rest, _⟩ ← readSuffixes finish whole rest
          return ⟨whole, rest, by simp only [List.length_cons]; omega⟩
      | .dot => do
          let ⟨called, rest, _⟩ ← expectName finish .member others
          let ⟨whole, rest, _⟩ ← readMember finish operand called.text rest
          let ⟨whole, rest, _⟩ ← readSuffixes finish whole rest
          return ⟨whole, rest, by simp only [List.length_cons]; omega⟩
      | _ => .ok ⟨operand, first :: others, Nat.lt_succ_self _⟩
termination_by (tokens.length, 0)

/-- Reads what follows a dot and a name: the argument of a list operation, or nothing. -/
def readMember (finish : Token) (owner : Expr) (called : String) (tokens : List Token) :
    Reading Expr (tokens.length + 1) :=
  match listOperation? called tokens with
  | some .append => do
      let ⟨_, rest, _⟩ ← expectMark finish .leftParen tokens
      let ⟨element, rest, _⟩ ← read finish rest
      let ⟨_, rest, _⟩ ← expectMark finish .rightParen rest
      return ⟨.append owner element owner.position, rest, by omega⟩
  | some .size => do
      let ⟨_, rest, _⟩ ← expectMark finish .leftParen tokens
      let ⟨_, rest, _⟩ ← expectMark finish .rightParen rest
      return ⟨.size owner owner.position, rest, by omega⟩
  | none => .ok ⟨.member owner called owner.position, tokens, Nat.lt_succ_self _⟩
termination_by (tokens.length, 0)

/-- Reads the arguments of a call and the parenthesis that closes them. -/
def readArguments (finish : Token) (tokens : List Token) :
    Reading (List Expr) tokens.length :=
  match accept .rightParen tokens with
  | some ⟨_, rest, shorter⟩ => .ok ⟨[], rest, shorter⟩
  | none => do
      let ⟨arguments, rest, afterItems⟩ ← readItems finish tokens
      let ⟨_, rest, afterMark⟩ ← expectMark finish .rightParen rest
      return ⟨arguments, rest, length_lt_of_two afterItems afterMark⟩
termination_by (tokens.length, 18)

/-- Reads one or more expressions with commas between them. -/
def readItems (finish : Token) (tokens : List Token) : Reading (List Expr) tokens.length := do
  let ⟨head, rest, _⟩ ← read finish tokens
  let ⟨tail, rest, _⟩ ← readMore finish rest
  return ⟨head :: tail, rest, by omega⟩
termination_by (tokens.length, 17)

/-- Reads further expressions, each after a comma. -/
def readMore (finish : Token) (tokens : List Token) :
    Reading (List Expr) (tokens.length + 1) :=
  match accept .comma tokens with
  | none => .ok ⟨[], tokens, Nat.lt_succ_self _⟩
  | some ⟨_, rest, _⟩ => do
      let ⟨head, rest, _⟩ ← read finish rest
      let ⟨tail, rest, _⟩ ← readMore finish rest
      return ⟨head :: tail, rest, by omega⟩
termination_by (tokens.length, 0)

/-- Reads a literal, a name, or one or more expressions in parentheses. -/
def readPrimary (finish : Token) (tokens : List Token) : Reading Expr tokens.length :=
  match tokens with
  | [] => refuse finish .unexpected tokens
  | first :: others =>
      match first.kind with
      | .integer =>
          match Text.readNumeral first.text with
          | .error fault => .error (.numeral fault)
          | .ok value => .ok ⟨.integer value first.position, others, Nat.lt_succ_self _⟩
      | .trueWord => .ok ⟨.boolean true first.position, others, Nat.lt_succ_self _⟩
      | .falseWord => .ok ⟨.boolean false first.position, others, Nat.lt_succ_self _⟩
      | .identifier => .ok ⟨.name first.text first.position, others, Nat.lt_succ_self _⟩
      | .leftParen => do
          let ⟨items, rest, _⟩ ← readItems finish others
          let ⟨_, rest, _⟩ ← expectMark finish .rightParen rest
          return ⟨.group items first.position, rest, by simp only [List.length_cons]; omega⟩
      | _ => refuse finish .unexpected tokens
termination_by (tokens.length, 1)

end

end Expr

end StructLang
