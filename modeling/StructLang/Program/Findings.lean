import StructLang.Program.Check

/-!
# What a check found

The findings of a check, node by node in the order of the program.
-/

namespace StructLang.Program

/-- The nodes that have a type, with it. -/
def typedNodes (program : Program) (state : CheckState) : List (Node × Ty) :=
  program.nodes.filterMap fun node =>
    (state.typeAt? node.address).map fun type => (node, type)

/-- The nodes that diagnostics speak of, with those diagnostics. -/
def faultyNodes (program : Program) (state : CheckState) : List (Node × List Diagnostic) :=
  program.nodes.filterMap fun node =>
    match state.diagnosticsAt node.address with
    | [] => none
    | diagnostics => some (node, diagnostics)

/-- The names under which the structs are known. -/
def structNames (program : Program) (state : CheckState) : List String :=
  program.structs.mapIdx fun index declaration =>
    state.nameAt (structAddress index) declaration.name

/-- The names under which the functions are known, each with its result type. -/
def functionResults (program : Program) (state : CheckState) : List (String × Ty) :=
  program.functions.mapIdx fun index declaration =>
    (state.nameAt (functionAddress index) declaration.name,
      state.resultAt (functionAddress index) declaration.result)

/-- The names under which the accessors are known. -/
def accessorNames (program : Program) (state : CheckState) : List String :=
  (program.nodes.filter (·.kind == .accessorDecl)).map fun node =>
    state.nameAt node.address node.name

end StructLang.Program
