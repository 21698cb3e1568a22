import StructLang.Program.Read
import StructLang.Stmt.Check
import StructLang.Token.Scan

/-!
# Checking programs

The structs are declared first, then the functions, so that bodies may refer to both in any order.
A declaration whose name is taken is reported and kept under a made-up name: a number and `@` for
structs and functions, the old name, `@` and a number for accessors. Then the members of the
structs are checked, then the containment of structs, then the bodies of functions, then the main
body. The parameters of a function come into its scope only after its body was checked.
-/

namespace StructLang

open Check

/-! ## Declarations -/

/-- Puts the entry of a declaration into the innermost scope, under a made-up name if its own is
taken; gives the name it is known under. -/
def declare (kind : DiagnosticKind) (address : Address) (position : Position) (entry : Entry) :
    Check String := do
  if ← tryInsert entry then return entry.name
  else
    report kind address position [entry.name]
    let name := s!"{← nextRename}@"
    insertRenamed address name entry
    return name

namespace StructDecl

/-- Declares a struct. -/
def declare (address : Address) (declaration : StructDecl) : Check Unit := do
  let entry := Entry.ofStruct declaration.name (← newScope none)
  let name ← StructLang.declare .duplicateStruct address declaration.position entry
  modify fun state => { state with containment := state.containment.addNode name }

/-- Declares structs, numbered from an index on. -/
def declareAll (index : Nat) : List StructDecl → Check Unit
  | [] => return
  | head :: tail => do
      head.declare (Program.structAddress index)
      declareAll (index + 1) tail

end StructDecl

namespace FunctionDecl

/-- Declares a function. -/
def declare (address : Address) (declaration : FunctionDecl) : Check Unit := do
  if ((← get).scopes.lookupRoot? ⟨.structs, declaration.name⟩).isSome then
    report .functionStructConflict address declaration.position [declaration.name]
  let entry := Entry.ofFunction declaration.name declaration.result declaration.parameters
    (← newScope none) (some address)
  discard (StructLang.declare .duplicateFunction address declaration.position entry)

/-- Declares functions, numbered from an index on. -/
def declareAll (index : Nat) : List FunctionDecl → Check Unit
  | [] => return
  | head :: tail => do
      head.declare (Program.functionAddress index)
      declareAll (index + 1) tail

end FunctionDecl

/-! ## Members of structs -/

namespace Stmt

/-- Puts a member into the scope of its struct: fields as variables, an accessor as a variable and
a function. -/
def declareMember (address : Address) : Stmt → Check Unit
  | .declare declared _ => VariableDecl.checkFields address 0 declared
  | .accessor name type parameters field _ _ _ => do
      field.checkField (1 :: address)
      let entry := Entry.ofFunction name type parameters (← newScope none) none
      if !(← tryInsert entry) then
        insertRenamed address s!"{name}@{← nextRename}" entry
  | .absent => throw .missingMember
  | other => throw (.unexpectedMember other.kind other.position)

/-- Puts the parameters of an accessor into its own scope, which its struct's scope encloses. -/
def bindMember (address : Address) : Stmt → Check Unit
  | .accessor name _ parameters _ _ _ _ => do
      let state ← get
      let key : Key := ⟨.functions, state.nameAt address name⟩
      match state.scopes.lookupHere? key, state.scopes.top? with
      | some (.ofFunction _ _ _ scope _), some structScope =>
          modifyScopes (·.enclose scope structScope)
          inScope scope (VariableDecl.checkAll (0 :: address) 0 parameters)
      | _, _ => return
  | _ => return

/-- Puts members into the scope of their struct, numbered from an index on. -/
def declareMembers (address : Address) (index : Nat) : List Stmt → Check Unit
  | [] => return
  | head :: tail => do
      head.declareMember (index :: address)
      declareMembers address (index + 1) tail

/-- Binds the parameters of the accessors among members, numbered from an index on. -/
def bindMembers (address : Address) (index : Nat) : List Stmt → Check Unit
  | [] => return
  | head :: tail => do
      head.bindMember (index :: address)
      bindMembers address (index + 1) tail

end Stmt

namespace StructDecl

/-- Checks the members of a struct: all are declared before the first accessor is bound, so every
accessor sees every field. The scope of the struct is entered once for the struct and once for its
members. -/
def check (address : Address) (declaration : StructDecl) : Check Unit := do
  let state ← get
  let name := state.nameAt address declaration.name
  match state.scopes.lookupRoot? ⟨.structs, name⟩ with
  | some (.ofStruct _ scope) =>
      inScope scope do
        modify fun state => { state with currentStruct? := some name }
        inScope scope do
          Stmt.declareMembers (0 :: address) 0 declaration.members
          Stmt.bindMembers (0 :: address) 0 declaration.members
        modify fun state => { state with currentStruct? := none }
  | _ => return

/-- Checks the members of structs, numbered from an index on. -/
def checkAll (index : Nat) : List StructDecl → Check Unit
  | [] => return
  | head :: tail => do
      head.check (Program.structAddress index)
      checkAll (index + 1) tail

end StructDecl

/-! ## Bodies -/

namespace FunctionDecl

/-- Reports a result type that is a struct which is not declared; the result of the function is
unknown from then on. -/
def checkResult (address : Address) (declaration : FunctionDecl) : Check Unit := do
  match declaration.result with
  | .struct name =>
      if ((← get).scopes.lookupRoot? ⟨.structs, name⟩).isNone then
        report .structNotDeclared address declaration.position [name]
        modify fun state => { state with withoutResult := address :: state.withoutResult }
  | _ => return

/-- Checks the body of a function, then its parameters, then its result type. -/
def check (address : Address) (declaration : FunctionDecl) : Check Unit := do
  let state ← get
  let key : Key := ⟨.functions, state.nameAt address declaration.name⟩
  match state.scopes.lookupRoot? key with
  | some (.ofFunction _ _ _ scope _) =>
      inScope scope do
        declaration.body.check (1 :: address)
        VariableDecl.checkAll (0 :: address) 0 declaration.parameters
        declaration.checkResult address
  | _ => return

/-- Checks functions, numbered from an index on, each inside an empty scope of its own. -/
def checkAll (index : Nat) : List FunctionDecl → Check Unit
  | [] => return
  | head :: tail => do
      inNewScope (head.check (Program.functionAddress index))
      checkAll (index + 1) tail

end FunctionDecl

namespace MainDecl

/-- Checks the main body, whose scope the outermost one encloses directly. -/
def check (declaration : MainDecl) : Check Unit := do
  inNewScope do
    let scope ← newScope (← get).root?
    inScope scope (declaration.body.check (0 :: Program.mainAddress))

end MainDecl

/-! ## Programs -/

namespace Program

/-- The address of the struct that is known under a name. -/
def structKnownAs? (program : Program) (state : CheckState) (name : String) :
    Option (Address × Position) :=
  (program.structs.mapIdx fun index declaration =>
    let address := structAddress index
    (state.nameAt address declaration.name, address, declaration.position)).reverse.lookup name

/-- Reports every struct that contains itself, directly or through others. -/
def checkContainment (program : Program) : Check Unit := do
  let state ← get
  state.containment.cyclicNodes.forM fun name =>
    match program.structKnownAs? state name with
    | some (address, position) => report .cyclicDependency address position [name]
    | none => reportNowhere .cyclicDependency [name]

/-- Checks a program inside its outermost scope. -/
def checkParts (program : Program) : Check Unit := do
  StructDecl.declareAll 0 program.structs
  FunctionDecl.declareAll 0 program.functions
  StructDecl.checkAll 0 program.structs
  program.checkContainment
  FunctionDecl.checkAll 0 program.functions
  match program.main? with
  | some main => main.check
  | none => return

/-- Checks a program. Whatever an earlier check left behind is forgotten first. -/
def check (program : Program) : Check Unit := do
  reset
  let root ← newScope none
  modify fun state => { state with root? := some root }
  inScope root program.checkParts

/-- Checks a program from the state before anything was looked at. -/
def checked (program : Program) : EStateM.Result CheckFailure CheckState Unit :=
  program.check.run .initial

end Program

end StructLang
