import StructLang.Proofs.Check.Faults
import StructLang.Proofs.Check.Programs

/-!
# What a check leaves

A check that completes leaves a state in which the tables hold all findings and the scopes hold
what the program declares. The check of a program as it is written completes.
-/

namespace StructLang

open Check

/-! ## The visits of a program -/

namespace FunctionDecl

/-- What is found at functions is found in a visit or at a result. -/
theorem visit_or_result_of_mem_checkFindingsOf
    {signature : Signature} {index : Nat} {functions : List FunctionDecl} {finding : Finding}
    (isFound : finding ∈ checkFindingsOf signature index functions) :
    (∃ visit ∈ visitsOf signature index functions, finding ∈ visit.findings) ∨
      ∃ (number : Nat) (declaration : FunctionDecl), functions[number]? = some declaration ∧
        finding ∈ declaration.resultFindings signature.entries
          (Program.functionAddress (index + number)) := by
  obtain ⟨number, declaration, isThere, ofDeclaration⟩ := mem_checkFindingsOf.mp isFound
  rw [checkFindings_eq] at ofDeclaration
  rcases List.mem_append.mp ofDeclaration with inVisit | atResult
  · obtain ⟨visit, member, isOwn⟩ := List.mem_flatMap.mp inVisit
    exact Or.inl ⟨visit, mem_visitsOf.mpr ⟨number, declaration, isThere, member⟩, isOwn⟩
  · exact Or.inr ⟨number, declaration, isThere, atResult⟩

/-- At a result there is a complaint about its struct, and the result is lost. -/
theorem mem_resultFindings
    {entries : List Entry} {address : Address} {declaration : FunctionDecl} {finding : Finding}
    (isFound : finding ∈ declaration.resultFindings entries address) :
    (∃ name, finding = .complaint .structNotDeclared address declaration.position [name]) ∨
      finding = .resultLost address := by
  rw [resultFindings] at isFound
  cases isResult : declaration.result with
  | struct name =>
      rw [isResult] at isFound
      dsimp only at isFound
      split at isFound
      · rw [List.mem_cons, List.mem_singleton] at isFound
        exact isFound.imp (fun isComplaint => ⟨name, isComplaint⟩) id
      · cases isFound
  | _ =>
      rw [isResult] at isFound
      cases isFound

end FunctionDecl

namespace Program

variable {program : Program} {state : CheckState}

theorem mainFindings_eq :
    (program.main?.map (MainDecl.checkFindings program.mainSignature)).getD [] =
      Visit.findingsOf program.mainVisits := by
  rw [mainVisits]
  cases program.main? with
  | none => rfl
  | some declaration => exact declaration.body.findings_visits.symm

/-- What is found at bodies is found in a visit or at the result of a function. -/
theorem mem_bodyFindings
    {finding : Finding} (isFound : finding ∈ program.bodyFindings) :
    (∃ visit ∈ program.visits, finding ∈ visit.findings) ∨
      ∃ (number : Nat) (declaration : FunctionDecl),
        program.functions[number]? = some declaration ∧
          finding ∈ declaration.resultFindings program.entries (functionAddress number) := by
  rw [bodyFindings, mainFindings_eq] at isFound
  rcases List.mem_append.mp isFound with ofFunction | ofMain
  · rcases FunctionDecl.visit_or_result_of_mem_checkFindingsOf ofFunction with
      ⟨visit, member, isOwn⟩ | ⟨number, declaration, isThere, isResult⟩
    · exact Or.inl ⟨visit, List.mem_append_left _ member, isOwn⟩
    · rw [Nat.zero_add] at isResult
      exact Or.inr ⟨number, declaration, isThere, isResult⟩
  · obtain ⟨visit, member, isOwn⟩ := List.mem_flatMap.mp ofMain
    exact Or.inl ⟨visit, List.mem_append_right _ member, isOwn⟩

/-- Bodies give types, complain and lose results, and nothing else. -/
theorem bodyFinding_cases
    {finding : Finding} (isFound : finding ∈ program.bodyFindings) :
    finding.isNote ∨ ∃ address, finding = .resultLost address := by
  rcases mem_bodyFindings isFound with ⟨visit, -, isOwn⟩ | ⟨number, declaration, -, atResult⟩
  · exact Or.inl (visit.isNote_findings finding isOwn)
  · rcases FunctionDecl.mem_resultFindings atResult with ⟨name, rfl⟩ | rfl
    · exact Or.inl rfl
    · exact Or.inr ⟨_, rfl⟩

theorem complainsIn_declareFindings :
    ∀ finding ∈ program.declareFindings,
      finding.ComplainsIn [.duplicateStruct, .functionStructConflict, .duplicateFunction] := by
  refine List.forall_mem_append.mpr ⟨fun finding ofStruct => ?_, fun finding ofFunction => ?_⟩
  · exact ((StructDecl.declaresAt_declareFindings program.structs finding ofStruct).of_subset
      (by simp)).complainsIn (by decide)
  · exact ((FunctionDecl.declaresAt_declareFindings program.functions finding
      ofFunction).of_subset (List.subset_cons_self _ _)).complainsIn (by decide)

theorem complainsIn_memberFindings :
    ∀ finding ∈ program.memberFindings, finding.ComplainsIn VariableDecl.faults :=
  fun finding member =>
    (StructDecl.declaresAt_checkFindingsOf program.namedStructs finding member).complainsIn
      (by decide)

theorem complainsIn_cycleFindings :
    ∀ finding ∈ program.cycleFindings, finding.ComplainsIn [.cyclicDependency] :=
  fun finding member =>
    (declaresAt_cycleFindings program.namedStructs finding member).complainsIn (by decide)

theorem complainsIn_bodyFindings :
    ∀ finding ∈ program.bodyFindings, finding.ComplainsIn Stmt.faults := by
  intro finding isFound
  rcases mem_bodyFindings isFound with ⟨visit, -, isOwn⟩ | ⟨number, declaration, -, atResult⟩
  · exact visit.complainsIn_findings finding isOwn
  · rcases FunctionDecl.mem_resultFindings atResult with ⟨name, rfl⟩ | rfl
    · apply Finding.ComplainsIn.ofExpr
      simp [Finding.complaint, Finding.ComplainsIn, Expr.faults]
    · trivial

/-! ## What a check leaves -/

/-- A state is what the check of a program leaves. -/
structure Outcome (program : Program) (state : CheckState) : Prop where
  found : state = (started.notingAll program.findings).withScopes state.scopes
  finished : ∃ store, state.scopes = store.pop ∧ program.Finished store

theorem outcome_of_checked
    (isChecked : program.checked = .ok () state) : program.Outcome state := by
  obtain ⟨store, rfl, finished⟩ := program.ends_check.of_completed isChecked
  exact ⟨rfl, store, rfl, finished⟩

theorem checked_of_written
    (written : program.Written) : ∃ state, program.checked = .ok () state := by
  have ends : Ends (¬ program.Written) program.check .initial _ := program.ends_check
  obtain ⟨_, state, isChecked, -⟩ := ends.completes fun some => some written
  exact ⟨state, isChecked⟩

/-- The check of a program completes, with a state of which something holds. -/
def CompletesWith (program : Program) (holds : CheckState → Prop) : Prop :=
  match program.checked with
  | .ok _ state => holds state
  | .error _ _ => False

instance {holds : CheckState → Prop} [DecidablePred holds] :
    Decidable (program.CompletesWith holds) :=
  match isChecked : program.checked with
  | .ok _ state => decidable_of_iff (holds state) (by rw [CompletesWith, isChecked])
  | .error _ _ => isFalse (by rw [CompletesWith, isChecked]; exact id)

theorem holds_of_checked
    {holds : CheckState → Prop} (isChecked : program.checked = .ok () state)
    (completes : program.CompletesWith holds) : holds state := by
  rw [CompletesWith, isChecked] at completes
  exact completes

namespace Outcome

variable (outcome : program.Outcome state)

include outcome

theorem reports_eq : state.reports.reverse = program.findings.filterMap Finding.report? := by
  have isTable : state.reports = (program.findings.filterMap Finding.report?).reverse ++ [] := by
    rw [outcome.found]
    exact CheckState.notingAll_reports _ _
  rw [isTable, List.append_nil, List.reverse_reverse]

theorem types_eq : state.types = (program.findings.filterMap Finding.typing?).reverse := by
  have isTable : state.types = (program.findings.filterMap Finding.typing?).reverse ++ [] := by
    rw [outcome.found]
    exact CheckState.notingAll_types _ _
  rw [isTable, List.append_nil]

theorem root?_eq : state.root? = some 0 := by
  rw [outcome.found]
  exact CheckState.notingAll_root? _ _

theorem arrow_iff
    (part whole : String) :
    state.containment.Arrow part whole ↔
      ∃ pair ∈ program.namedStructs, pair.1 = whole ∧
        ∃ field ∈ pair.2.fields, field.type = .struct part := by
  have isGraph : state.containment = Finding.addAllTo .empty program.findings := by
    rw [outcome.found]
    exact CheckState.notingAll_containment _ _
  have notLater : .contained part whole ∉ program.cycleFindings ++ program.bodyFindings := by
    intro isFound
    rcases List.mem_append.mp isFound with isCycle | inBody
    · exact notMem_of_notes isNote_cycleFindings isCycle
    · rcases bodyFinding_cases inBody with isNote | ⟨address, isLost⟩
      · cases isNote
      · cases isLost
  rw [isGraph, findings, Finding.addAllTo_append, Finding.addAllTo_append,
    Finding.arrow_addAllTo, or_iff_left notLater]
  exact program.arrow_containment part whole

/-- All names that were made up: those of accessors come after those of structs and functions. -/
theorem names_eq_append :
    state.names =
      (program.memberFindings.filterMap Finding.renaming?).reverse ++ program.madeUpNames := by
  have isTable : state.names = (program.findings.filterMap Finding.renaming?).reverse ++ [] := by
    rw [outcome.found]
    exact CheckState.notingAll_names _ _
  have noneInBody : program.bodyFindings.filterMap Finding.renaming? = [] := by
    refine List.filterMap_eq_nil_iff.mpr fun finding isFound => ?_
    rcases bodyFinding_cases isFound with isNote | ⟨address, rfl⟩
    · cases finding <;> first | rfl | cases isNote
    · rfl
  have noneInCycles : program.cycleFindings.filterMap Finding.renaming? = [] :=
    Finding.filterMap_renaming?_of_notes isNote_cycleFindings
  rw [isTable, List.append_nil, findings]
  simp only [List.filterMap_append, noneInBody, noneInCycles, List.append_nil,
    List.reverse_append, renamings_declareFindings]

theorem names_eq :
    ∃ later, state.names = later ++ program.madeUpNames ∧
      ∀ pair ∈ later, pair.1.length ≠ 2 := by
  refine ⟨_, outcome.names_eq_append, fun pair member same => ?_⟩
  have isDeep := StructDecl.length_of_mem_renamings (List.mem_reverse.mp member)
  omega

/-- The names of structs and functions are as their naming gave them. -/
theorem nameAt_structAddress
    {index : Nat} {declaration : StructDecl}
    (isThere : program.structs[index]? = some declaration) :
    program.structNaming.taken[index]? =
      some (state.nameAt (structAddress index) declaration.name) := by
  obtain ⟨later, isNames, elsewhere⟩ := outcome.names_eq
  exact Program.nameAt_structAddress isNames elsewhere isThere

theorem nameAt_functionAddress
    {index : Nat} {declaration : FunctionDecl}
    (isThere : program.functions[index]? = some declaration) :
    program.functionNaming.taken[index]? =
      some (state.nameAt (functionAddress index) declaration.name) := by
  obtain ⟨later, isNames, elsewhere⟩ := outcome.names_eq
  exact Program.nameAt_functionAddress isNames elsewhere isThere

end Outcome

end Program

end StructLang
