import StructLang.Diagnostic
import StructLang.Expr.Operator
import StructLang.Scope.Store

/-!
# Typing rules

Each rule takes the types of the parts of an expression and gives its type, or the complaint that
stands in its place. The unknown type is absorbed: a fault that was reported once is not reported
again by the expressions around it.
-/

namespace StructLang

/-- What a rule says of an expression: its type, or what is wrong with it. -/
inductive Verdict
  | type (type : Ty)
  | fault (kind : DiagnosticKind) (names : List String)
  deriving DecidableEq, Repr

namespace Verdict

/-- The type that an expression has by a verdict. -/
def ty : Verdict → Ty
  | type found => found
  | fault .. => .unknown

/-- The type if there is one, and a complaint otherwise. -/
def ofOption (type? : Option Ty) (kind : DiagnosticKind) (names : List String) : Verdict :=
  match type? with
  | some found => type found
  | none => fault kind names

end Verdict

namespace Rule

/-- The type of two operands of types that are not both unknown. -/
def binaryType? (operator : BinaryOp) (left right : Ty) : Option Ty :=
  let absorbed := left.isUnknown || right.isUnknown
  let other := if left.isUnknown then right else left
  let areInts := left = .int ∧ right = .int
  let areBools := left = .bool ∧ right = .bool
  match operator with
  | .add | .subtract | .multiply | .divide =>
      if absorbed ∨ areInts then some .int else none
  | .equal =>
      if absorbed then some (if other = .int then .int else .bool)
      else if areInts ∨ areBools then some .bool else none
  | .less | .greater => if absorbed ∨ areInts then some .bool else none
  | .both | .either => if absorbed ∨ areBools then some .bool else none
  | .assign =>
      if absorbed then some other else if left = right then some left else none

/-- The rule for a binary operator. Two unknown operands give the unknown type. -/
def binaryOp (operator : BinaryOp) (left right : Ty) : Verdict :=
  if left.isUnknown ∧ right.isUnknown then .type .unknown
  else .ofOption (binaryType? operator left right) .unsupportedOperand [operator.word]

/-- The rule for whatever stands between two operands. It must be a binary operator, unless both
operands are unknown, in which case it is not looked at. -/
def binary? (operator : Operator) (left right : Ty) : Option Verdict :=
  match operator with
  | .binary operator => some (binaryOp operator left right)
  | _ => if left.isUnknown ∧ right.isUnknown then some (.type .unknown) else none

/-- The rule for an operator before one operand. If the operand is unknown, the operator is not
looked at; otherwise there must be one. -/
def unary? (operator : Operator) (operand : Ty) : Option Verdict :=
  if operand.isUnknown then some (.type .unknown)
  else
    match operator, operand with
    | .absent, _ => none
    | .unary .negate, .int => some (.type .int)
    | .unary .invert, .bool => some (.type .bool)
    | _, _ => some (.fault .unsupportedOperand [operator.word])

/-- The rule for expressions in parentheses: the first one gives the type. -/
def group (items : List Ty) : Verdict := .type (items.head?.getD .unknown)

/-- The type of the elements of a list, and the unknown type for any other type. -/
def elementOf : Ty → Ty
  | .list element => element
  | _ => .unknown

/-- The rule for an element of a list. -/
def index (list place : Ty) : Verdict :=
  if list.isUnknown ∨ place.isUnknown then .type (elementOf list)
  else if place ≠ .int then .fault .indexNotInt []
  else
    match list with
    | .list element => .type element
    | _ => .fault .indexOnNonList []

/-- The rule for the size of a list. -/
def size : Ty → Verdict
  | .list _ | .unknown => .type .int
  | _ => .fault .sizeOfNonList []

/-- The rule for adding an element to a list. Only the outermost form of the types is compared. -/
def append (list element : Ty) : Verdict :=
  match list with
  | .list stored =>
      if stored.isUnknown then .type .unknown
      else if Ty.sameKind element stored ∨ element.isUnknown then .type .void
      else .fault .elementMismatch []
  | .unknown => .type .unknown
  | _ => .fault .appendToNonList []

/-- Whether arguments fit parameters: as many of them, and each of the same type unless one of the
two is unknown. -/
def argumentsFit (arguments parameters : List Ty) : Bool :=
  arguments.length == parameters.length &&
    (arguments.zip parameters).all fun (argument, parameter) =>
      argument = parameter || argument.isUnknown || parameter.isUnknown

/-- The rule for a call. -/
def call (callee : Ty) (arguments : List Ty) : Verdict :=
  match callee with
  | .unknown => .type .unknown
  | .fptr parameters result =>
      if argumentsFit arguments parameters then .type result else .fault .argumentMismatch []
  | _ => .fault .callOnNonFunction []

/-- The rule for a member of a struct. The struct is found by its name in the outermost scope; its
own scope holds the members. -/
def member (scopes : ScopeStore) (owner : Ty) (called : String) : Verdict :=
  match owner with
  | .unknown => .type .unknown
  | .struct name =>
      match scopes.lookupRoot? ⟨.structs, name⟩ with
      | some (.ofStruct _ scope) =>
          match scopes.find? scope ⟨.vars, called⟩ with
          | some (.ofVariable _ type) => .type type
          | _ => .fault .structMemberNotFound [name, called]
      | _ => .fault .structNotDeclared [name]
  | _ => .fault .memberOnNonStruct []

/-- The rule for a name: the nearest variable, or else a function of the outermost scope, whose
result is unknown once it was found to be a struct that is not declared. -/
def name (scopes : ScopeStore) (withoutResult : List Address) (called : String) : Verdict :=
  match scopes.lookup? ⟨.vars, called⟩ with
  | some (.ofVariable _ type) => .type type
  | _ =>
      match scopes.lookupRoot? ⟨.functions, called⟩ with
      | some (.ofFunction _ result parameters _ address?) =>
          let lost := address?.any fun address => withoutResult.contains address
          .type (.fptr (parameters.map (·.type)) (if lost then .unknown else result))
      | _ => .fault .variableNotDeclared [called]

/-- What is wrong with a condition, if anything. -/
def condition? : Ty → Option DiagnosticKind
  | .bool | .unknown => none
  | _ => some .conditionNotBool

/-- What is wrong with a value to display, if anything. -/
def display? : Ty → Option DiagnosticKind
  | .int | .bool | .unknown => none
  | _ => some .unsupportedDisplay

end Rule

end StructLang
