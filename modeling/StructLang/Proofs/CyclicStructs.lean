import StructLang.Proofs.Check.Outcome
import StructLang.Proofs.FromSource

/-!
# Structs that contain themselves

A struct contains the structs that its fields have as types. Which struct is meant is said by the
names under which declarations are known. The containment graph is just this relation, and the
structs on its cycles are just those that are complained about.
-/

namespace StructLang

namespace Program

/-- A struct that is known under one name has a field whose type is the struct of another name. The
parameters of accessors are no fields, and the elements of lists are not contained. -/
def Contains (program : Program) (state : CheckState) (part whole : String) : Prop :=
  ∃ index declaration, program.structs[index]? = some declaration ∧
    state.nameAt (structAddress index) declaration.name = whole ∧
    ∃ field ∈ declaration.fields, field.type = .struct part

/-- The structs, each with the name under which it is known and its number. -/
def knownStructs (program : Program) (state : CheckState) :
    List (String × Nat × StructDecl) :=
  program.structs.mapIdx fun index declaration =>
    (state.nameAt (structAddress index) declaration.name, index, declaration)

open scoped Classical in
/-- One complaint for each struct that contains itself, directly or through others, in the order of
the declarations. -/
noncomputable def cycleReports (program : Program) (state : CheckState) : List Report :=
  ((program.knownStructs state).filter fun (name, _) =>
    Relation.TransGen (program.Contains state) name name).map
      fun (name, index, declaration) =>
        ⟨some (structAddress index), ⟨.cyclicDependency, declaration.position.line, [name]⟩⟩

variable {program : Program} {state : CheckState}

theorem arrow_iff_contains
    (outcome : program.Outcome state) (part whole : String) :
    state.containment.Arrow part whole ↔ program.Contains state part whole := by
  rw [outcome.arrow_iff]
  constructor
  · rintro ⟨pair, member, rfl, hasField⟩
    obtain ⟨index, isThere, isPair⟩ := List.mem_iff_getElem.mp member
    obtain ⟨isName, isStruct⟩ :=
      mem_namedStructs (isPair ▸ List.getElem?_eq_getElem isThere)
    have known := outcome.nameAt_structAddress isStruct
    rw [isName, Option.some.injEq] at known
    exact ⟨index, pair.2, isStruct, known.symm, hasField⟩
  · rintro ⟨index, declaration, isStruct, rfl, hasField⟩
    have isPair : program.namedStructs[index]? =
        some (state.nameAt (structAddress index) declaration.name, declaration) :=
      List.getElem?_zip_eq_some.mpr ⟨outcome.nameAt_structAddress isStruct, isStruct⟩
    exact ⟨_, List.mem_of_getElem? isPair, rfl, hasField⟩

/-- Where the structs stand is the same by their naming and by the names in the tables. -/
theorem places_eq
    (outcome : program.Outcome state) :
    StructDecl.places program.namedStructs =
      (program.knownStructs state).map fun (name, index, declaration) =>
        (name, structAddress index, declaration.position) := by
  have sameLength : program.namedStructs.length = program.structs.length := by
    rw [← snd_namedStructs, List.length_map]
  refine List.ext_getElem (by simp [StructDecl.places, knownStructs, sameLength])
    fun index isThere _ => ?_
  have isBelow : index < program.namedStructs.length := by
    simpa [StructDecl.places] using isThere
  obtain ⟨isName, isStruct⟩ := mem_namedStructs (List.getElem?_eq_getElem isBelow)
  have known := outcome.nameAt_structAddress isStruct
  rw [isName, Option.some.injEq] at known
  obtain ⟨isBelowToo, isSame⟩ := List.getElem?_eq_some_iff.mp isStruct
  simp [StructDecl.places, knownStructs, isSame, known]

theorem reports_cycleFindings
    (outcome : program.Outcome state) :
    program.cycleFindings.filterMap Finding.report? = program.cycleReports state := by
  classical
  have sameArrows : program.containment.Arrow = program.Contains state := by
    funext part whole
    exact propext ((program.arrow_containment part whole).trans
      ((outcome.arrow_iff part whole).symm.trans (arrow_iff_contains outcome part whole)))
  have isCycle (name : String) : program.containment.isAncestor name name =
      decide (Relation.TransGen (program.Contains state) name name) := by
    rw [Bool.eq_iff_iff, decide_eq_true_iff, ← sameArrows]
    exact Containment.isAncestor_iff name name
  rw [cycleFindings, StructLang.cycleFindings, places_eq outcome, List.filter_map,
    List.map_map, List.filterMap_map, cycleReports, ← List.filterMap_eq_map]
  simp only [Function.comp_def, isCycle]
  rfl

theorem filter_cyclic_eq_nil
    {kinds : List DiagnosticKind} {findings : List Finding}
    (complain : ∀ finding ∈ findings, finding.ComplainsIn kinds)
    (noCycle : .cyclicDependency ∉ kinds) :
    (findings.filterMap Finding.report?).filter (·.diagnostic.kind = .cyclicDependency) =
      [] := by
  refine List.filter_eq_nil_iff.mpr fun report isReport isCycle => noCycle ?_
  obtain ⟨finding, member, isThis⟩ := List.mem_filterMap.mp isReport
  have complains := complain finding member
  cases finding with
  | reported other =>
      obtain rfl := Option.some.inj isThis
      exact of_decide_eq_true isCycle ▸ complains.1
  | _ => cases isThis

/-- Nothing but cycles of structs is complained about as one. -/
theorem filter_cyclic
    (outcome : program.Outcome state) :
    state.reports.reverse.filter (·.diagnostic.kind = .cyclicDependency) =
      program.cycleFindings.filterMap Finding.report? := by
  have ofDeclarations := filter_cyclic_eq_nil program.complainsIn_declareFindings (by decide)
  have ofMembers := filter_cyclic_eq_nil program.complainsIn_memberFindings (by decide)
  have ofBodies := filter_cyclic_eq_nil program.complainsIn_bodyFindings (by decide)
  have ofCycles : (program.cycleFindings.filterMap Finding.report?).filter
      (·.diagnostic.kind = .cyclicDependency) =
        program.cycleFindings.filterMap Finding.report? := by
    refine List.filter_eq_self.mpr fun report isReport => ?_
    obtain ⟨finding, member, isThis⟩ := List.mem_filterMap.mp isReport
    obtain ⟨place, -, rfl⟩ := List.mem_map.mp member
    obtain rfl := Option.some.inj isThis
    rfl
  rw [outcome.reports_eq, findings]
  simp only [List.filterMap_append, List.filter_append, ofDeclarations, ofMembers, ofBodies,
    ofCycles, List.nil_append, List.append_nil]

/-- After the check of a program that was read from a source text, the containment graph has just
the arrows from a struct to those that have a field of its type. Each struct on a cycle of this
relation is complained about once, at its declaration and in the order of the declarations, and
nothing else is complained about as a cycle. -/
theorem cyclic_structs_reported
    {source : String} (isRead : Program.ofSource source = .ok program) :
    ∃ state, program.checked = .ok () state ∧
      (∀ part whole,
        whole ∈ state.containment.children part ↔ program.Contains state part whole) ∧
      state.reports.reverse.filter (·.diagnostic.kind = .cyclicDependency) =
        program.cycleReports state := by
  obtain ⟨state, isChecked⟩ := checked_of_written (written_of_ofSource isRead)
  have outcome := outcome_of_checked isChecked
  exact ⟨state, isChecked, arrow_iff_contains outcome,
    (filter_cyclic outcome).trans (reports_cycleFindings outcome)⟩

theorem cyclic_structs_reported_selfContained :
    Program.ofSource "struct A\x7bA a;\x7dmain\x7b\x7d" = .ok selfContained ∧
      ∃ state, selfContained.checked = .ok () state ∧
        (∀ part whole,
          whole ∈ state.containment.children part ↔ selfContained.Contains state part whole) ∧
        state.reports.reverse.filter (·.diagnostic.kind = .cyclicDependency) =
          selfContained.cycleReports state :=
  ⟨ofSource_selfContained, cyclic_structs_reported ofSource_selfContained⟩

end Program

end StructLang
