import StructLang.Check.Rules
import StructLang.Containment

/-!
# The state of a check

A check walks a program once. It keeps the scopes, the containment graph and four tables: the
diagnostics, each with the address of its node; the types of nodes; the names under which renamed
declarations are known; and the functions whose result is unknown. The tables have the latest
entry first. A check that fails leaves its state as it was at that moment.
-/

namespace StructLang

/-- A diagnostic with the address of the node it speaks of, if it speaks of one. -/
structure Report where
  address? : Option Address
  diagnostic : Diagnostic
  deriving DecidableEq, Repr

/-- What a check has found so far. -/
structure CheckState where
  scopes : ScopeStore
  root? : Option ScopeId
  reports : List Report
  types : List (Address × Ty)
  names : List (Address × String)
  withoutResult : List Address
  containment : Containment
  currentStruct? : Option String
  renames : Nat
  deriving DecidableEq, Repr

/-- Why a check cannot go on. Programs that were read from a text never fail so. -/
inductive CheckFailure
  | unexpectedExpression (kind : NodeKind) (position : Position)
  | unexpectedStatement (kind : NodeKind) (position : Position)
  | unexpectedMember (kind : NodeKind) (position : Position)
  | unknownOperator (operator : Operator)
  | missingOperator
  | missingMember
  | scope (fault : ScopeFault)
  deriving DecidableEq, Repr

namespace CheckFailure

/-- What is wrong, without the place. -/
def message : CheckFailure → String
  | unexpectedExpression kind _ => s!"Unexpected expression {kind.name}"
  | unexpectedStatement kind _ => s!"Unexpected statement {kind.name}"
  | unexpectedMember kind _ => s!"Unexpected struct member {kind.name}"
  | unknownOperator operator => s!"Unknown binary operator {operator.title}"
  | missingOperator => "'NoneType' object has no attribute 'value'"
  | missingMember => "'NoneType' object has no attribute 'line'"
  | scope fault => fault.message

/-- The place a failure points at. Failures of scopes and missing parts point at none. -/
def position? : CheckFailure → Option Position
  | unexpectedExpression _ position => some position
  | unexpectedStatement _ position => some position
  | unexpectedMember _ position => some position
  | unknownOperator _ => some .none
  | missingOperator | missingMember | scope _ => none

end CheckFailure

namespace CheckState

/-- The state before anything was looked at. -/
def initial : CheckState :=
  { scopes := .empty
    root? := none
    reports := []
    types := []
    names := []
    withoutResult := []
    containment := .empty
    currentStruct? := none
    renames := 0 }

/-- The diagnostics in the order in which they were reported. -/
def diagnostics (state : CheckState) : List Diagnostic :=
  state.reports.reverse.map (·.diagnostic)

/-- The diagnostics about one node, in the order in which they were reported. -/
def diagnosticsAt (state : CheckState) (address : Address) : List Diagnostic :=
  (state.reports.reverse.filter (·.address? == some address)).map (·.diagnostic)

/-- The type of a node, if the check gave it one. -/
def typeAt? (state : CheckState) (address : Address) : Option Ty :=
  state.types.lookup address

/-- The name under which a declaration is known: its own, unless it was renamed. -/
def nameAt (state : CheckState) (address : Address) (declared : String) : String :=
  (state.names.lookup address).getD declared

/-- The result type of a function: the declared one, unless that is a struct that is not
declared. -/
def resultAt (state : CheckState) (address : Address) (declared : Ty) : Ty :=
  if state.withoutResult.contains address then .unknown else declared

end CheckState

/-- A step of a check. -/
abbrev Check := EStateM CheckFailure CheckState

namespace Check

/-- Forgets everything that was found so far. -/
def reset : Check Unit := set CheckState.initial

/-- Reports a diagnostic about a node. -/
def report (kind : DiagnosticKind) (address : Address) (position : Position)
    (names : List String) : Check Unit :=
  modify fun state =>
    { state with
      reports := ⟨some address, ⟨kind, position.line, names⟩⟩ :: state.reports }

/-- Reports a diagnostic about no node. -/
def reportNowhere (kind : DiagnosticKind) (names : List String) : Check Unit :=
  modify fun state =>
    { state with reports := ⟨none, ⟨kind, 0, names⟩⟩ :: state.reports }

/-- Gives a node its type. -/
def record (address : Address) (type : Ty) : Check Ty := do
  modify fun state => { state with types := (address, type) :: state.types }
  return type

/-- Gives a node the type of a verdict and reports what the verdict complains about. -/
def settle (address : Address) (position : Position) (verdict : Verdict) : Check Ty := do
  match verdict with
  | .type _ => pure ()
  | .fault kind names => report kind address position names
  record address verdict.ty

/-- The number for the next name that a check makes up. -/
def nextRename : Check Nat := do
  modify fun state => { state with renames := state.renames + 1 }
  return (← get).renames

/-- Changes the scopes. -/
def modifyScopes (change : ScopeStore → ScopeStore) : Check Unit :=
  modify fun state => { state with scopes := change state.scopes }

/-- Makes a new scope and gives its number. -/
def newScope (enclosing? : Option ScopeId) : Check ScopeId := do
  let scope := (← get).scopes.fresh
  modifyScopes (·.create enclosing?)
  return scope

/-- Runs a step inside a scope. -/
def inScope (scope : ScopeId) (step : Check Unit) : Check Unit := do
  modifyScopes (·.push scope)
  step
  modifyScopes (·.pop)

/-- Runs a step inside a new scope, which the innermost one encloses. -/
def inNewScope (step : Check Unit) : Check Unit := do
  inScope (← newScope none) step

/-- Puts an entry into the innermost scope; says whether its key was free. -/
def tryInsert (entry : Entry) : Check Bool := do
  match (← get).scopes.insert entry with
  | .ok scopes =>
      modify fun state => { state with scopes := scopes }
      return true
  | .error (.taken _) => return false
  | .error fault => throw (.scope fault)

/-- Puts an entry, whose key must be free, into the innermost scope. -/
def insert (entry : Entry) : Check Unit := do
  match (← get).scopes.insert entry with
  | .ok scopes => modify fun state => { state with scopes := scopes }
  | .error fault => throw (.scope fault)

/-- Puts the entry of a declaration under a made-up name into the innermost scope. -/
def insertRenamed (address : Address) (name : String) (entry : Entry) : Check Unit := do
  modify fun state => { state with names := (address, name) :: state.names }
  insert (entry.rename name)

end Check

end StructLang
