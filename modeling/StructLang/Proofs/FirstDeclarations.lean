import StructLang.Proofs.Check.Variables
import StructLang.Proofs.Consistency
import StructLang.Proofs.DeclaredNames
import StructLang.Proofs.Relabeling.Composition

/-!
# The first declaration wins

In every scope the first declaration of a name counts, and every later one is reported. Besides, a
variable is reported if a struct or a function has its name. In the blocks of accessors nothing is
reported, for nothing is looked at there.

- `Declares` : in which scope a variable is declared, and what was declared there before.
- `VariableDecl.diagnostics` : what is said about a variable.
- `first_declarations` : what the scopes hold, and what is said about all variables of a program.
-/

namespace StructLang

open Finding

/-- What is said about a variable of a program, in a scope that other variables were declared in
before. -/
def VariableDecl.diagnostics (program : Program) (earlier : Region) (declaration : VariableDecl) :
    List Diagnostic :=
  let about (kind : DiagnosticKind) : Diagnostic :=
    ⟨kind, declaration.position.line, [declaration.name]⟩
  (if declaration.name ∈ program.structs.map (·.name) then [about .variableStructConflict]
    else []) ++
  ((if declaration.name ∈ program.functions.map (·.name) then [about .variableFunctionConflict]
    else []) ++
  (if declaration.name ∈ earlier.names then [about .duplicateVariable] else []))

namespace Program

variable {program : Program} {state : CheckState}

/-- What is found about a variable with a plain name is what is said about it. -/
theorem reportsOf_findings
    {earlier : Region} {address : Address} {declaration : VariableDecl}
    (plain : PlainName declaration.name) :
    (reportsOf (declaration.findings program.entries earlier address)).map (·.diagnostic) =
      declaration.diagnostics program earlier := by
  have ofStruct : (program.entries.find? (·.key = ⟨.structs, declaration.name⟩)).isSome ↔
      declaration.name ∈ program.structs.map (·.name) := by
    rw [← not_iff_not, Option.not_isSome_iff_eq_none, find?_struct_eq_none plain]
  have ofFunction : (program.entries.find? (·.key = ⟨.functions, declaration.name⟩)).isSome ↔
      declaration.name ∈ program.functions.map (·.name) := by
    rw [← not_iff_not, Option.not_isSome_iff_eq_none, find?_function_eq_none plain]
  simp only [VariableDecl.findings, VariableDecl.diagnostics, ofStruct, ofFunction, reportsOf,
    List.filterMap_append, List.map_append]
  congr 1
  · split <;> rfl
  congr 1
  · split <;> rfl
  · split <;> rfl

/-- What is found at a member is found about a variable that is declared. -/
theorem declares_of_mem_memberFindings
    {report : Report} (isFound : .reported report ∈ program.memberFindings) :
    ∃ address earlier declaration, report.address? = some address ∧
      program.Declares address earlier declaration := by
  obtain ⟨-, -, address, isAddress, -⟩ :=
    StructDecl.declaresAt_checkFindingsOf program.namedStructs _ isFound
  have isAbout : .reported report ∈ allAbout address program.memberFindings :=
    List.mem_filter.mpr ⟨isFound, by simp [about?, isAddress]⟩
  rw [allAbout_memberFindings] at isAbout
  obtain ⟨visit, isVisit, rfl⟩ := Visit.exists_of_about? (List.mem_filter.mp isAbout).1 isAddress
  obtain ⟨earlier, declaration, declares⟩ := exists_declares_of_mem_memberVisits isVisit
  exact ⟨_, earlier, declaration, isAddress, declares⟩

/-- What is wrong with the name of a variable in a body is found about a variable that is declared
there. -/
theorem declares_of_mem_bodyFindings
    (written : program.Written) {report : Report}
    (isFault : report.diagnostic.kind ∈ VariableDecl.faults)
    (isFound : .reported report ∈ program.bodyFindings) :
    ∃ address earlier declaration, report.address? = some address ∧
      program.Declares address earlier declaration := by
  rcases mem_bodyFindings isFound with ⟨visit, isVisit, isOwn⟩ | ⟨number, function, -, atResult⟩
  · obtain ⟨declaration, isDeclaration⟩ := visit.exists_declaration_of_fault isOwn isFault
    obtain ⟨node, isNode, isLabel⟩ := label_of_mem_visits isVisit
    obtain ⟨isPlace, isKind, -⟩ := Node.eq_of_label isLabel
    rw [isDeclaration] at isKind
    have isAddress : report.address? = some node.address :=
      isPlace ▸ visit.about?_findings _ isOwn
    rcases isVariable_or_inAccessor written isNode isKind with
      ⟨earlier, variant, declares, -⟩ | inAccessor
    · exact ⟨_, earlier, variant, isAddress, declares⟩
    · obtain ⟨number, isBelow⟩ := inAccessor.isBelow
      refine absurd ?_ (address_of_mem_visits isVisit).2
      rw [← isPlace]
      exact (List.suffix_append [0, number] [0]).trans isBelow
  · rcases FunctionDecl.mem_resultFindings atResult with ⟨name, isComplaint⟩ | isLost
    · cases isComplaint
      have notFault : .structNotDeclared ∉ VariableDecl.faults := by decide
      exact absurd isFault notFault
    · cases isLost

/-- What is wrong with the name of a variable is found about a variable that is declared. -/
theorem declares_of_found
    (written : program.Written) {report : Report}
    (isFault : report.diagnostic.kind ∈ VariableDecl.faults)
    (isFound : .reported report ∈ program.findings) :
    ∃ address earlier declaration, report.address? = some address ∧
      program.Declares address earlier declaration := by
  have elsewhere {kinds : List DiagnosticKind} {findings : List Finding}
      (complain : ∀ finding ∈ findings, finding.ComplainsIn kinds)
      (disjoint : ∀ kind ∈ VariableDecl.faults, kind ∉ kinds) : .reported report ∉ findings :=
    fun isOther => disjoint _ isFault (complain _ isOther).1
  rw [findings, List.mem_append, List.mem_append, List.mem_append,
    or_iff_right (elsewhere complainsIn_declareFindings (by decide)),
    or_iff_right (elsewhere complainsIn_cycleFindings (by decide))] at isFound
  exact isFound.elim declares_of_mem_memberFindings (declares_of_mem_bodyFindings written isFault)

/-- The first declaration of each name counts in every scope, and the tables say which declarations
are not the first. The scope of a function holds the first declarations among the variables of its
body and then its parameters, and that of a struct those among its fields. -/
structure FirstWins (program : Program) (state : CheckState) : Prop where
  root : state.root? = some 0
  functions : ∀ index declaration, program.functions[index]? = some declaration →
    ∃ scope, .ofFunction (state.nameAt (functionAddress index) declaration.name) declaration.result
        declaration.parameters scope (some (functionAddress index)) ∈ state.scopes.entries 0 ∧
      state.scopes.entries scope =
        Region.entries (declaration.body.declares ++ declaration.parameters)
  structs : ∀ index declaration, program.structs[index]? = some declaration →
    ∃ scope, .ofStruct (state.nameAt (structAddress index) declaration.name) scope ∈
        state.scopes.entries 0 ∧
      (state.scopes.entries scope).filter (·.key.kind = .vars) = declaration.fields.entries
  told : ∀ address earlier declaration, program.Declares address earlier declaration →
    state.diagnosticsAt address = declaration.diagnostics program earlier
  nodes : ∀ node ∈ program.nodes, node.kind = .variableDecl →
    program.IsVariable node ∨
      program.InAccessor node.address ∧ state.diagnosticsAt node.address = []
  reported : ∀ report ∈ state.reports, report.diagnostic.kind ∈ VariableDecl.faults →
    ∃ address earlier declaration, report.address? = some address ∧
      program.Declares address earlier declaration

namespace Outcome

variable (outcome : program.Outcome state)

include outcome

theorem functions_hold
    {index : Nat} {declaration : FunctionDecl}
    (isThere : program.functions[index]? = some declaration) :
    ∃ scope, .ofFunction (state.nameAt (functionAddress index) declaration.name) declaration.result
        declaration.parameters scope (some (functionAddress index)) ∈ state.scopes.entries 0 ∧
      state.scopes.entries scope =
        Region.entries (declaration.body.declares ++ declaration.parameters) := by
  refine ⟨program.structs.length + 1 + index, ?_, outcome.entries_function isThere⟩
  obtain ⟨isBelow, rfl⟩ := List.getElem?_eq_some_iff.mp isThere
  rw [outcome.installs.entries]
  exact List.mem_append_right _ (List.mem_mapIdx.mpr ⟨index, isBelow, rfl⟩)

theorem structs_hold
    {index : Nat} {declaration : StructDecl}
    (isThere : program.structs[index]? = some declaration) :
    ∃ scope, .ofStruct (state.nameAt (structAddress index) declaration.name) scope ∈
        state.scopes.entries 0 ∧
      (state.scopes.entries scope).filter (·.key.kind = .vars) = declaration.fields.entries := by
  refine ⟨index + 1, ?_, (outcome.installs.structs index declaration isThere).1⟩
  obtain ⟨isBelow, rfl⟩ := List.getElem?_eq_some_iff.mp isThere
  rw [outcome.installs.entries]
  exact List.mem_append_left _ (List.mem_mapIdx.mpr ⟨index, isBelow, rfl⟩)

theorem declares_of_reported
    (written : program.Written) {report : Report} (isReport : report ∈ state.reports)
    (isFault : report.diagnostic.kind ∈ VariableDecl.faults) :
    ∃ address earlier declaration, report.address? = some address ∧
      program.Declares address earlier declaration := by
  rw [← List.mem_reverse, outcome.reports_eq, List.mem_filterMap] at isReport
  obtain ⟨finding, isFound, isReported⟩ := isReport
  cases finding with
  | reported =>
      obtain rfl := Option.some.inj isReported
      exact declares_of_found written isFault isFound
  | _ => cases isReported

theorem firstWins
    {source : String} (isRead : Program.ofSource source = .ok program)
    (written : program.Written) : program.FirstWins state where
  root := outcome.root?_eq
  functions _ _ := outcome.functions_hold
  structs _ _ := outcome.structs_hold
  told address earlier declaration declares := by
    rw [outcome.diagnosticsAt_eq, declares.allAbout_findings]
    exact reportsOf_findings (plainName_of_mem_nodes isRead declares.mem_nodes rfl)
  nodes node isNode isKind := by
    refine (isVariable_or_inAccessor written isNode isKind).imp_right fun inAccessor => ?_
    refine ⟨inAccessor, ?_⟩
    rw [outcome.diagnosticsAt_eq, inAccessor.allAbout_findings]
    rfl
  reported _ := outcome.declares_of_reported written

end Outcome

/-- The check of a program from a source text completes, and the first declaration of each name
wins. In a function that is the first one among the variables that its body declares outside of
branches, in the order of the text, and then its parameters; in a struct, among its fields. A
variable is reported as a duplicate, once, if it is not the first of its name in its scope, and as a
conflict if a struct or a function has its name. Of all variables only those in the blocks of
accessors are left out: nothing is said about them. -/
theorem first_declarations
    {source : String} (isRead : Program.ofSource source = .ok program) :
    ∃ state, program.checked = .ok () state ∧ program.FirstWins state := by
  have written := written_of_ofSource isRead
  obtain ⟨state, isChecked⟩ := checked_of_written written
  exact ⟨state, isChecked, (outcome_of_checked isChecked).firstWins isRead written⟩

/-- The second variable of the main body repeats the first and has the name of a function. The
field and the parameter that repeat others are reported in their own scopes, and the variable of the
second function is the first of its name there. -/
theorem first_declarations_sharedNames :
    Program.ofSource sharedNamesSource = .ok sharedNames ∧
      ∃ state, sharedNames.checked = .ok () state ∧
        state.diagnosticsAt [0, 0, 0, 2] = [⟨.variableFunctionConflict, 1, ["f"]⟩] ∧
        state.diagnosticsAt [0, 1, 0, 2] =
          [⟨.variableFunctionConflict, 1, ["f"]⟩, ⟨.duplicateVariable, 1, ["f"]⟩] ∧
        state.diagnosticsAt [1, 1, 0, 0, 0] = [⟨.duplicateVariable, 1, ["x"]⟩] ∧
        state.diagnosticsAt [1, 0, 0, 0, 0, 0] = [⟨.duplicateVariable, 1, ["a"]⟩] ∧
        state.diagnosticsAt [0, 0, 1, 1, 1] = [] := by
  obtain ⟨state, isChecked, firstWins⟩ := first_declarations ofSource_sharedNames
  have inMain : sharedNames.Stands 2 [0, 2] [] [] _ := Stands.main rfl
  have inSecond : sharedNames.Stands 1 [1, 1, 1] [] [] _ := Stands.function rfl
  refine ⟨ofSource_sharedNames, state, isChecked, ?_, ?_, ?_, ?_, ?_⟩
  · exact (firstWins.told _ _ _ (.inBody (.ofBlock inMain rfl) rfl)).trans (by decide)
  · exact (firstWins.told _ _ _ (.inBody (.ofBlock inMain rfl) rfl)).trans (by decide)
  · exact (firstWins.told _ _ _ (.accessorField rfl rfl)).trans (by decide)
  · exact (firstWins.told _ _ _ (.accessorParameter rfl rfl rfl)).trans (by decide)
  · exact (firstWins.told _ _ _ (.inBody (.ofBlock inSecond rfl) rfl)).trans (by decide)

end Program

end StructLang
