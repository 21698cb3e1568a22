import StructLang.Proofs.Consistency
import StructLang.Proofs.FromSource
import StructLang.Proofs.Order.Notes

/-!
# The order of declarations

Structs and functions may be used before they stand in the text. As long as their names are distinct
and no result is lost, the order in which they stand makes no difference to a check but the order of
what it reports: each declaration is checked as it was, wherever it stands.

- `check_rearranged` : a check of the same declarations in another order comes to the same.
-/

namespace StructLang.Program

open Finding
open Relabeling (moving faithful_moving)

/-! ## Rearranged programs -/

/-- A program has the declarations of another one, maybe in another order. -/
structure Rearranges (program other : Program) : Prop where
  structs : other.structs.Perm program.structs
  functions : other.functions.Perm program.functions
  main : other.main? = program.main?
  position : other.position = program.position

/-- Where a node stands in a program and in one with the same declarations in another order. -/
inductive Corresponds (program other : Program) : Address → Address → Prop
  | program : Corresponds program other [] []
  | struct {index otherIndex : Nat} {declaration : StructDecl} (way : Address) :
      program.structs[index]? = some declaration →
      other.structs[otherIndex]? = some declaration →
      Corresponds program other (way ++ structAddress index) (way ++ structAddress otherIndex)
  | function {index otherIndex : Nat} {declaration : FunctionDecl} (way : Address) :
      program.functions[index]? = some declaration →
      other.functions[otherIndex]? = some declaration →
      Corresponds program other (way ++ functionAddress index)
        (way ++ functionAddress otherIndex)
  | main (way : Address) : Corresponds program other (way ++ mainAddress) (way ++ mainAddress)

variable {program other : Program} {source target : Address}

theorem Corresponds.symm
    {address otherAddress : Address}
    (corresponds : other.Corresponds program address otherAddress) :
    program.Corresponds other otherAddress address := by
  cases corresponds with
  | program => exact .program
  | struct way isThere isThereToo => exact .struct way isThereToo isThere
  | function way isThere isThereToo => exact .function way isThereToo isThere
  | main way => exact .main way

namespace Rearranges

variable (rearranges : program.Rearranges other)

include rearranges

theorem symm : other.Rearranges program :=
  ⟨rearranges.structs.symm, rearranges.functions.symm, rearranges.main.symm,
    rearranges.position.symm⟩

theorem mem_structNames
    {name : String} :
    name ∈ other.structs.map (·.name) ↔ name ∈ program.structs.map (·.name) :=
  (rearranges.structs.map _).mem_iff

theorem mem_functionNames
    {name : String} :
    name ∈ other.functions.map (·.name) ↔ name ∈ program.functions.map (·.name) :=
  (rearranges.functions.map _).mem_iff

theorem distinctNames
    (names : program.DistinctNames) : other.DistinctNames where
  structs := (rearranges.structs.map _).nodup_iff.mpr names.structs
  functions := (rearranges.functions.map _).nodup_iff.mpr names.functions

theorem declaresResults
    (declares : program.DeclaresResults) : other.DeclaresResults :=
  fun declaration isThere name isResult => rearranges.mem_structNames.mpr
    (declares declaration (rearranges.functions.mem_iff.mp isThere) name isResult)

theorem written
    (written : program.Written) : other.Written where
  structs declaration isThere :=
    written.structs declaration (rearranges.structs.mem_iff.mp isThere)
  functions declaration isThere :=
    written.functions declaration (rearranges.functions.mem_iff.mp isThere)
  main := rearranges.main ▸ written.main

/-! ## What names and members mean -/

section

variable (names : program.DistinctNames)

include names

theorem name_eq
    (regions : List Region) (called : String) :
    other.signature.name regions called = program.signature.name regions called := by
  have namesToo := rearranges.distinctNames names
  cases isNearest : Region.nearest? regions called with
  | some declaration => rw [Signature.name, isNearest, Signature.name, isNearest]
  | none =>
      by_cases isFunction : called ∈ program.functions.map (·.name)
      · obtain ⟨declaration, isThere, rfl⟩ := List.mem_map.mp isFunction
        rw [names.name_eq_of_function isThere isNearest, namesToo.name_eq_of_function
          (rearranges.functions.mem_iff.mpr isThere) isNearest]
      · rw [names.name_eq_of_missing isFunction isNearest, namesToo.name_eq_of_missing
          (fun isThere => isFunction (rearranges.mem_functionNames.mp isThere)) isNearest]

theorem member_eq
    (owner : Ty) (called : String) :
    other.signature.member owner called = program.signature.member owner called := by
  have namesToo := rearranges.distinctNames names
  cases owner with
  | struct struct =>
      by_cases isStruct : struct ∈ program.structs.map (·.name)
      · obtain ⟨declaration, isThere, rfl⟩ := List.mem_map.mp isStruct
        rw [names.member_eq_of_struct isThere, namesToo.member_eq_of_struct
          (rearranges.structs.mem_iff.mpr isThere)]
      · rw [names.member_eq_of_missing isStruct, namesToo.member_eq_of_missing
          fun isThere => isStruct (rearranges.mem_structNames.mp isThere)]
  | _ => rfl

theorem follows : program.signature.Follows (moving source target) other.signature := by
  have namesToo := rearranges.distinctNames names
  refine Signature.follows_moving (fun regions => ?_) (fun name => ?_) fun name => ?_
  · rw [Signature.around, Signature.around]
    exact congr (congrArg _ (funext (rearranges.name_eq names regions)))
      (funext fun owner => funext (rearranges.member_eq names owner))
  · exact Bool.eq_iff_iff.mpr
      (namesToo.isSome_struct.trans (rearranges.mem_structNames.trans names.isSome_struct.symm))
  · exact Bool.eq_iff_iff.mpr (namesToo.isSome_function.trans
      (rearranges.mem_functionNames.trans names.isSome_function.symm))

theorem isAncestor_eq
    (name : String) :
    other.containment.isAncestor name name = program.containment.isAncestor name name := by
  have sameParts : other.IsPartOf = program.IsPartOf := by
    funext part whole
    simp only [IsPartOf, rearranges.structs.mem_iff]
  rw [Bool.eq_iff_iff, (rearranges.distinctNames names).isAncestor_iff, names.isAncestor_iff,
    sameParts]

/-! ## What is found in declarations -/

theorem moves_cyclePart : MovesWith [0] program.structs program.cyclePart other.cyclePart := by
  intro declaration _ index otherIndex
  rw [cyclePart, StructDecl.cycleNotes, rearranges.isAncestor_eq names, cyclePart,
    StructDecl.cycleNotes]
  split
  · exact congrArg ([·]) (relabel_moving_complaint _ _ _).symm
  · rfl

theorem moves_memberPart
    (written : ∀ declaration ∈ program.structs, declaration.Written) :
    MovesWith [0] program.structs program.memberPart other.memberPart := by
  intro declaration isThere index otherIndex
  have follows : program.signature.Follows
      (moving (structAddress index) (structAddress otherIndex)) other.signature :=
    rearranges.follows names
  have found := StructDecl.checkFindings_relabel faithful_moving follows declaration.name 0 []
    (written declaration isThere)
  rw [declaration.relabel_moving] at found
  exact (congrArg notes found).trans (notes_relabel _ _)

theorem moves_bodyPart :
    MovesWith [1] program.functions program.bodyPart other.bodyPart := by
  intro declaration _ index otherIndex
  have follows : program.signature.Follows
      (moving (functionAddress index) (functionAddress otherIndex)) other.signature :=
    rearranges.follows names
  have found := declaration.checkFindings_relabel Function.injective_id follows []
  rw [declaration.relabel_moving] at found
  exact (congrArg notes found).trans (notes_relabel _ _)

theorem mainPart_eq :
    other.mainPart = program.mainPart.map (Finding.relabel (moving mainAddress mainAddress)) := by
  rw [mainPart, rearranges.main, mainPart, ← notes_relabel]
  cases program.main? with
  | none => rfl
  | some declaration =>
      have follows : program.signature.Follows (moving mainAddress mainAddress) other.signature :=
        rearranges.follows names
      have found := declaration.body.findings_relabel Function.injective_id follows [] [] [0]
      rw [declaration.body.relabel_moving] at found
      exact congrArg notes found

end

theorem moves_conflictPart :
    MovesWith [1] program.functions program.conflictPart other.conflictPart := by
  intro declaration _ index otherIndex
  simp only [conflictPart, FunctionDecl.conflictNotes, rearranges.mem_structNames]
  split
  · exact congrArg ([·]) (relabel_moving_complaint _ _ _).symm
  · rfl

end Rearranges

/-! ## What is found in rearranged programs -/

section

variable (names : program.DistinctNames) (declares : program.DeclaresResults)
  (written : ∀ declaration ∈ program.structs, declaration.Written)
  (rearranges : program.Rearranges other)

include names declares written rearranges

theorem perm_diagnostics :
    (other.findings.filterMap diagnostic?).Perm (program.findings.filterMap diagnostic?) := by
  rw [← filterMap_diagnostic?_notes, ← filterMap_diagnostic?_notes program.findings,
    notes_findings names declares, notes_findings (rearranges.distinctNames names)
      (rearranges.declaresResults declares), rearranges.mainPart_eq names]
  simp only [List.filterMap_append, filterMap_diagnostic?_moving]
  have conflicts := rearranges.moves_conflictPart.perm_diagnostics rearranges.functions
  have members := (rearranges.moves_memberPart names written).perm_diagnostics rearranges.structs
  have cycles := (rearranges.moves_cyclePart names).perm_diagnostics rearranges.structs
  have bodies := (rearranges.moves_bodyPart names).perm_diagnostics rearranges.functions
  exact conflicts.append (members.append (cycles.append (bodies.append_right _)))

/-- What is found about a node is found about it wherever its declaration stands. -/
theorem allAbout_corresponding
    {address otherAddress : Address}
    (corresponds : program.Corresponds other address otherAddress) :
    ∃ source target, allAbout otherAddress other.findings =
      (allAbout address program.findings).map (Finding.relabel (moving source target)) := by
  have namesToo := rearranges.distinctNames names
  have declaresToo := rearranges.declaresResults declares
  cases corresponds with
  | program =>
      exact ⟨[], [], by rw [allAbout_root names declares, allAbout_root namesToo declaresToo]; rfl⟩
  | @struct index otherIndex declaration way isThere isThereToo =>
      have isBelow (index : Nat) : [0] <:+ way ++ structAddress index :=
        (List.suffix_cons index [0]).trans (List.suffix_append way _)
      have members := (rearranges.moves_memberPart names written).allAbout_eq
        staysBelow_memberPart staysBelow_memberPart isThere isThereToo way
      have cycles := (rearranges.moves_cyclePart names).allAbout_eq staysBelow_cyclePart
        staysBelow_cyclePart isThere isThereToo way
      refine ⟨structAddress index, structAddress otherIndex, ?_⟩
      rw [allAbout_of_struct names declares (isBelow index),
        allAbout_of_struct namesToo declaresToo (isBelow otherIndex), List.map_append]
      exact congr (congrArg _ members) cycles
  | @function index otherIndex declaration way isThere isThereToo =>
      have isBelow (index : Nat) : [1] <:+ way ++ functionAddress index :=
        (List.suffix_cons index [1]).trans (List.suffix_append way _)
      have conflicts := rearranges.moves_conflictPart.allAbout_eq staysBelow_conflictPart
        staysBelow_conflictPart isThere isThereToo way
      have bodies := (rearranges.moves_bodyPart names).allAbout_eq staysBelow_bodyPart
        staysBelow_bodyPart isThere isThereToo way
      refine ⟨functionAddress index, functionAddress otherIndex, ?_⟩
      rw [allAbout_of_function names declares (isBelow index),
        allAbout_of_function namesToo declaresToo (isBelow otherIndex), List.map_append]
      exact congr (congrArg _ conflicts) bodies
  | main way =>
      have isBelow : mainAddress <:+ way ++ mainAddress := List.suffix_append way _
      refine ⟨mainAddress, mainAddress, ?_⟩
      rw [allAbout_of_main names declares isBelow, allAbout_of_main namesToo declaresToo isBelow,
        rearranges.mainPart_eq names]
      exact allAbout_moving (fun _ isFound _ => suffix_of_mem_mainPart isFound) way

end

/-! ## Nodes of rearranged programs -/

/-- Every node of a program stands somewhere in a rearranged program. -/
theorem exists_corresponding
    (rearranges : program.Rearranges other) {node : Node} (isNode : node ∈ program.nodes) :
    ∃ address, program.Corresponds other node.address address ∧
      ⟨address, node.kind, node.name, node.position⟩ ∈ other.nodes := by
  rw [nodes] at isNode
  simp only [List.mem_cons, List.mem_append, List.mem_flatten, List.mem_mapIdx] at isNode
  rcases isNode with rfl | (⟨-, ⟨index, isBelow, rfl⟩, inStruct⟩ |
    ⟨-, ⟨index, isBelow, rfl⟩, inFunction⟩) | inMain
  · refine ⟨[], .program, ?_⟩
    rw [← rearranges.position]
    exact List.mem_cons_self
  · have isThere := List.getElem?_eq_getElem isBelow
    obtain ⟨otherIndex, isThereToo⟩ := List.getElem?_of_mem
      (rearranges.structs.mem_iff.mpr (List.mem_of_getElem? isThere))
    obtain ⟨way, isAddress, isNodeToo⟩ :=
      StructDecl.exists_moved inStruct (structAddress otherIndex)
    exact ⟨_, isAddress ▸ .struct way isThere isThereToo, nodes_struct isThereToo isNodeToo⟩
  · have isThere := List.getElem?_eq_getElem isBelow
    obtain ⟨otherIndex, isThereToo⟩ := List.getElem?_of_mem
      (rearranges.functions.mem_iff.mpr (List.mem_of_getElem? isThere))
    obtain ⟨way, isAddress, isNodeToo⟩ :=
      FunctionDecl.exists_moved inFunction (functionAddress otherIndex)
    exact ⟨_, isAddress ▸ .function way isThere isThereToo, nodes_function isThereToo isNodeToo⟩
  · cases isMain : program.main? with
    | none => rw [isMain] at inMain; cases inMain
    | some declaration =>
        rw [isMain] at inMain
        obtain ⟨way, isAddress⟩ := (declaration.apart_nodes mainAddress).below node inMain
        exact ⟨node.address, isAddress ▸ .main way,
          nodes_main (rearranges.main.trans isMain) inMain⟩

/-! ## Checks of rearranged programs -/

theorem Outcome.diagnostics_eq
    {state : CheckState} (outcome : program.Outcome state) :
    state.diagnostics = program.findings.filterMap diagnostic? := by
  rw [CheckState.diagnostics, outcome.reports_eq, map_diagnostic_reportsOf]

theorem Outcome.sameAt
    {state otherState : CheckState} (outcome : program.Outcome state)
    (otherOutcome : other.Outcome otherState) {address otherAddress : Address}
    (sameFindings : allAbout otherAddress other.findings =
      (allAbout address program.findings).map (Finding.relabel (moving source target))) :
    otherState.typeAt? otherAddress = state.typeAt? address ∧
      otherState.diagnosticsAt otherAddress = state.diagnosticsAt address := by
  rw [otherOutcome.typeAt?_eq, outcome.typeAt?_eq, otherOutcome.diagnosticsAt_eq,
    outcome.diagnosticsAt_eq, sameFindings]
  constructor
  · rw [← List.getLast?_map, map_type_moving, List.getLast?_map]
  · rw [map_diagnostic_reportsOf, filterMap_diagnostic?_moving, map_diagnostic_reportsOf]

/-- The check of a program from a source text, in which no two structs and no two functions share a
name and no result is lost, completes, and so does that of the program with its structs and
functions in any other order. The one check reports what the other one reports, in another order.
Each node of the one program is a node of the other, and what the one check says about it the other
says, too. -/
theorem check_rearranged
    {source : String} (isRead : Program.ofSource source = .ok program)
    (names : program.DistinctNames) (declares : program.DeclaresResults)
    (rearranges : program.Rearranges other) :
    ∃ state otherState, program.checked = .ok () state ∧ other.checked = .ok () otherState ∧
      otherState.diagnostics.Perm state.diagnostics ∧
      (∀ node ∈ program.nodes, ∃ address, program.Corresponds other node.address address ∧
        ⟨address, node.kind, node.name, node.position⟩ ∈ other.nodes) ∧
      (∀ node ∈ other.nodes, ∃ address, program.Corresponds other address node.address ∧
        ⟨address, node.kind, node.name, node.position⟩ ∈ program.nodes) ∧
      ∀ address otherAddress, program.Corresponds other address otherAddress →
        otherState.typeAt? otherAddress = state.typeAt? address ∧
          otherState.diagnosticsAt otherAddress = state.diagnosticsAt address := by
  have written := written_of_ofSource isRead
  obtain ⟨state, isChecked⟩ := checked_of_written written
  obtain ⟨otherState, isCheckedToo⟩ := checked_of_written (rearranges.written written)
  have outcome := outcome_of_checked isChecked
  have otherOutcome := outcome_of_checked isCheckedToo
  refine ⟨state, otherState, isChecked, isCheckedToo, ?_, fun node isNode =>
    exists_corresponding rearranges isNode, fun node isNode => ?_, fun _ _ corresponds => ?_⟩
  · rw [outcome.diagnostics_eq, otherOutcome.diagnostics_eq]
    exact perm_diagnostics names declares written.structs rearranges
  · obtain ⟨address, corresponds, isNodeToo⟩ := exists_corresponding rearranges.symm isNode
    exact ⟨address, corresponds.symm, isNodeToo⟩
  · obtain ⟨source, target, sameFindings⟩ :=
      allAbout_corresponding names declares written.structs rearranges corresponds
    exact outcome.sameAt otherOutcome sameFindings

/-! ## A function that is used before it is declared -/

/-- A program with two functions, the first of which uses the other one. -/
def usesLater : Program :=
  ⟨[], [⟨"f", .int, [], .block [.giveBack (some (.member (.name "g" ⟨1, 20⟩) "a" ⟨1, 20⟩))
        ⟨1, 13⟩] ⟨1, 12⟩, ⟨1, 1⟩⟩,
      ⟨"g", .int, [], .block [.giveBack (some (.name "b" ⟨1, 44⟩)) ⟨1, 37⟩] ⟨1, 36⟩, ⟨1, 25⟩⟩],
    some ⟨.block [] ⟨1, 51⟩, ⟨1, 47⟩⟩, ⟨1, 1⟩⟩

/-- The tokens of that program, without the one that marks their end. -/
def usesLaterTokens : List Token :=
  [⟨.funcWord, "func", ⟨1, 1⟩⟩, ⟨.identifier, "f", ⟨1, 6⟩⟩, ⟨.leftParen, "(", ⟨1, 7⟩⟩,
    ⟨.rightParen, ")", ⟨1, 8⟩⟩, ⟨.intWord, "int", ⟨1, 9⟩⟩, ⟨.leftBrace, "\x7b", ⟨1, 12⟩⟩,
    ⟨.returnWord, "return", ⟨1, 13⟩⟩, ⟨.identifier, "g", ⟨1, 20⟩⟩, ⟨.dot, ".", ⟨1, 21⟩⟩,
    ⟨.identifier, "a", ⟨1, 22⟩⟩, ⟨.semicolon, ";", ⟨1, 23⟩⟩, ⟨.rightBrace, "\x7d", ⟨1, 24⟩⟩,
    ⟨.funcWord, "func", ⟨1, 25⟩⟩, ⟨.identifier, "g", ⟨1, 30⟩⟩, ⟨.leftParen, "(", ⟨1, 31⟩⟩,
    ⟨.rightParen, ")", ⟨1, 32⟩⟩, ⟨.intWord, "int", ⟨1, 33⟩⟩, ⟨.leftBrace, "\x7b", ⟨1, 36⟩⟩,
    ⟨.returnWord, "return", ⟨1, 37⟩⟩, ⟨.identifier, "b", ⟨1, 44⟩⟩, ⟨.semicolon, ";", ⟨1, 45⟩⟩,
    ⟨.rightBrace, "\x7d", ⟨1, 46⟩⟩, ⟨.mainWord, "main", ⟨1, 47⟩⟩, ⟨.leftBrace, "\x7b", ⟨1, 51⟩⟩,
    ⟨.rightBrace, "\x7d", ⟨1, 52⟩⟩]

theorem scan_usesLater :
    scan "func f()int\x7breturn g.a;\x7dfunc g()int\x7breturn b;\x7dmain\x7b\x7d" =
      .ok (usesLaterTokens ++ [⟨.finish, "", ⟨1, 53⟩⟩]) :=
  Scan.scan_of_scansTo rfl (by decide +kernel)

theorem derives_usesLater : Grammar.DerivesProgram usesLaterTokens usesLater := by
  have result : Grammar.DerivesStmt (usesLaterTokens.drop 6)
      (.giveBack (some (.member (.name "g" ⟨1, 20⟩) "a" ⟨1, 20⟩)) ⟨1, 13⟩)
      (usesLaterTokens.drop 11) :=
    .giveBack rfl (.ofChained (.member (.primary (.name rfl)) rfl rfl)) rfl
  have function : Grammar.DerivesFunction usesLaterTokens _ (usesLaterTokens.drop 12) :=
    .function rfl rfl (.none rfl rfl) (.int rfl) (.block rfl (.more result .none) rfl)
  have otherResult : Grammar.DerivesStmt (usesLaterTokens.drop 18)
      (.giveBack (some (.name "b" ⟨1, 44⟩)) ⟨1, 37⟩) (usesLaterTokens.drop 21) :=
    .giveBack rfl (.ofChained (.primary (.name rfl))) rfl
  have otherFunction : Grammar.DerivesFunction (usesLaterTokens.drop 12) _
      (usesLaterTokens.drop 22) :=
    .function rfl rfl (.none rfl rfl) (.int rfl) (.block rfl (.more otherResult .none) rfl)
  exact .program (.function function (.function otherFunction .none)) rfl (.block rfl .none rfl)

theorem ofSource_usesLater :
    Program.ofSource "func f()int\x7breturn g.a;\x7dfunc g()int\x7breturn b;\x7dmain\x7b\x7d" =
      .ok usesLater :=
  ofSource_of_derives scan_usesLater (by decide) rfl derives_usesLater

/-- The program with its two functions the other way round. -/
def usesEarlier : Program := { usesLater with functions := usesLater.functions.reverse }

theorem rearranges_usesLater : usesLater.Rearranges usesEarlier :=
  ⟨.refl _, List.reverse_perm _, rfl, rfl⟩

/-- In the function that uses the other one, that has its type wherever the two of them stand, and
what each of them complains about stays the same. -/
theorem check_rearranged_usesLater :
    Program.ofSource "func f()int\x7breturn g.a;\x7dfunc g()int\x7breturn b;\x7dmain\x7b\x7d" =
        .ok usesLater ∧
      usesLater.DistinctNames ∧ usesLater.DeclaresResults ∧ usesLater.Rearranges usesEarlier ∧
      ∃ state, usesEarlier.checked = .ok () state ∧
        state.diagnostics.Perm
          [⟨.memberOnNonStruct, 1, []⟩, ⟨.variableNotDeclared, 1, ["b"]⟩] ∧
        state.typeAt? [0, 0, 0, 1, 1, 1] = some (.fptr [] .int) := by
  have names : usesLater.DistinctNames := ⟨by decide, by decide⟩
  have declares : usesLater.DeclaresResults := by
    rintro declaration isThere name isResult
    rcases List.mem_pair.mp isThere with rfl | rfl <;> cases isResult
  obtain ⟨state, otherState, isChecked, isCheckedToo, perm, -, -, same⟩ :=
    check_rearranged ofSource_usesLater names declares rearranges_usesLater
  have isCallee : usesLater.Corresponds usesEarlier [0, 0, 0, 1, 0, 1] [0, 0, 0, 1, 1, 1] :=
    .function [0, 0, 0, 1] (rfl : usesLater.functions[0]? = some _) rfl
  have isFound : state.diagnostics =
      [⟨.memberOnNonStruct, 1, []⟩, ⟨.variableNotDeclared, 1, ["b"]⟩] ∧
        state.typeAt? [0, 0, 0, 1, 0, 1] = some (.fptr [] .int) := by
    apply holds_of_checked isChecked
    decide +kernel
  exact ⟨ofSource_usesLater, names, declares, rearranges_usesLater, otherState, isCheckedToo,
    isFound.1 ▸ perm, (same _ _ isCallee).1.trans isFound.2⟩

end StructLang.Program
