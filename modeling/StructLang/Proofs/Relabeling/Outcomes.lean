import StructLang.Program.Findings
import StructLang.Proofs.Check.Outcome
import StructLang.Proofs.Relabeling.Programs

/-!
# Outcomes of relabeled programs

A program as it is written stays one if plain names become plain names. So both its check and that
of the relabeled program complete, and the tables of the one are those of the other, relabeled.
-/

namespace StructLang

variable {relabeling : Relabeling} {change : String → String}

/-! ## Relabeled programs are as they are written -/

namespace Ty

mutual

theorem Written.rename
    (plain : ∀ name, PlainName name → PlainName (change name)) :
    (type : Ty) → type.Written → (type.rename change).Written
  | int, _ | bool, _ | void, _ => trivial
  | struct name, written => plain name written
  | list element, written => Written.rename plain element written
  | fptr parameters result, written =>
      ⟨WrittenAll.rename plain parameters written.1, Written.rename plain result written.2⟩
  | unknown, written | generic, written => written.elim

theorem WrittenAll.rename
    (plain : ∀ name, PlainName name → PlainName (change name)) :
    (types : List Ty) → WrittenAll types → WrittenAll (renameAll change types)
  | [], _ => trivial
  | head :: tail, written =>
      ⟨Written.rename plain head written.1, WrittenAll.rename plain tail written.2⟩

end

end Ty

section

variable (plain : ∀ name, PlainName name → PlainName (relabeling.name name))

include plain

namespace Expr

-- The second theorem of the pair uses the assumption only through the first one.
set_option linter.unusedSectionVars false in
mutual

theorem Written.relabel : (expression : Expr) → expression.Written →
    (expression.relabel relabeling).Written
  | integer .., _ | boolean .., _ => trivial
  | name called _, written => plain called written
  | group items _, ⟨notEmpty, written⟩ => by
      refine ⟨?_, WrittenAll.relabel items written⟩
      cases items with
      | nil => exact absurd rfl notEmpty
      | cons head tail => exact List.cons_ne_nil _ _
  | binary left _ right _, ⟨ofLeft, ofRight, isOperator⟩ =>
      ⟨Written.relabel left ofLeft, Written.relabel right ofRight, isOperator⟩
  | unary _ operand _, ⟨ofOperand, isOperator⟩ => ⟨Written.relabel operand ofOperand, isOperator⟩
  | index list place _, ⟨ofList, ofPlace⟩ =>
      ⟨Written.relabel list ofList, Written.relabel place ofPlace⟩
  | member owner _ _, written => Written.relabel owner written
  | size list _, written => Written.relabel list written
  | append list element _, ⟨ofList, ofElement⟩ =>
      ⟨Written.relabel list ofList, Written.relabel element ofElement⟩
  | call callee arguments _, ⟨ofCallee, ofArguments⟩ =>
      ⟨Written.relabel callee ofCallee, WrittenAll.relabel arguments ofArguments⟩
  | stray _, written | absent, written => written.elim

theorem WrittenAll.relabel : (expressions : List Expr) → WrittenAll expressions →
    WrittenAll (relabelAll relabeling expressions)
  | [], _ => trivial
  | head :: tail, ⟨ofHead, ofTail⟩ => ⟨Written.relabel head ofHead, WrittenAll.relabel tail ofTail⟩

end

end Expr

theorem Region.written_relabel
    {region : Region} (written : ∀ declaration ∈ region, declaration.Written) :
    ∀ declaration ∈ region.relabel relabeling, declaration.Written := by
  intro declaration member
  obtain ⟨old, isOld, rfl⟩ := List.mem_map.mp member
  exact Ty.Written.rename plain old.type (written old isOld)

namespace Stmt

-- The second theorem of the pair uses the assumption only through the first one.
set_option linter.unusedSectionVars false in
mutual

theorem Written.relabel : (statement : Stmt) → statement.Written →
    (statement.relabel relabeling).Written
  | block statements _, written => WrittenAll.relabel statements written
  | declare _ _, written => Region.written_relabel plain written
  | assign target value _, ⟨ofTarget, ofValue⟩ =>
      ⟨Expr.Written.relabel plain target ofTarget, Expr.Written.relabel plain value ofValue⟩
  | branch condition thenBody elseBody _, ⟨ofCondition, ofThen, ofElse⟩ => by
      refine ⟨Expr.Written.relabel plain condition ofCondition, Written.relabel thenBody ofThen, ?_⟩
      rcases ofElse with rfl | ofElse
      · exact Or.inl rfl
      · exact Or.inr (Written.relabel elseBody ofElse)
  | loop condition body _, ⟨ofCondition, ofBody⟩ =>
      ⟨Expr.Written.relabel plain condition ofCondition, Written.relabel body ofBody⟩
  | display argument _, written => Expr.Written.relabel plain argument written
  | append expression _, written | size expression _, written | call expression _, written =>
      Expr.Written.relabel plain expression written
  | giveBack none _, _ => trivial
  | giveBack (some value) _, written => Expr.Written.relabel plain value written
  | accessor .., written | stray _, written | absent, written => written.elim

theorem WrittenAll.relabel : (statements : List Stmt) → WrittenAll statements →
    WrittenAll (relabelAll relabeling statements)
  | [], _ => trivial
  | head :: tail, ⟨ofHead, ofTail⟩ => ⟨Written.relabel head ofHead, WrittenAll.relabel tail ofTail⟩

end

theorem WrittenMember.relabel
    {member : Stmt} (written : member.WrittenMember) :
    (member.relabel relabeling).WrittenMember := by
  cases member with
  | declare => exact Region.written_relabel plain written
  | accessor name type parameters field setBody getBody position =>
      obtain ⟨ofName, ofType, ofParameters, sameName, sameType⟩ := written
      exact ⟨plain name ofName, Ty.Written.rename plain type ofType,
        Region.written_relabel plain ofParameters, congrArg relabeling.name sameName,
        congrArg (Ty.rename relabeling.name) sameType⟩
  | _ => exact written.elim

end Stmt

theorem StructDecl.Written.relabel
    {declaration : StructDecl} (written : declaration.Written) :
    (declaration.relabel relabeling).Written := by
  refine ⟨plain _ written.name, fun member isMember => ?_⟩
  rw [StructDecl.relabel, Stmt.relabelAll_eq] at isMember
  obtain ⟨old, isOld, rfl⟩ := List.mem_map.mp isMember
  exact (written.members old isOld).relabel plain

theorem FunctionDecl.Written.relabel
    {declaration : FunctionDecl} (written : declaration.Written) :
    (declaration.relabel relabeling).Written where
  name := plain _ written.name
  result := Ty.Written.rename plain _ written.result
  parameters := Region.written_relabel plain written.parameters
  body := Stmt.Written.relabel plain _ written.body

theorem Program.Written.relabel
    {program : Program} (written : program.Written) : (program.relabel relabeling).Written := by
  refine ⟨fun declaration member => ?_, fun declaration member => ?_, ?_⟩
  · obtain ⟨old, isOld, rfl⟩ := List.mem_map.mp member
    exact (written.structs old isOld).relabel plain
  · obtain ⟨old, isOld, rfl⟩ := List.mem_map.mp member
    exact (written.functions old isOld).relabel plain
  · obtain ⟨declaration, isMain, isWritten⟩ := written.main
    exact ⟨_, congrArg (Option.map _) isMain, Stmt.Written.relabel plain _ isWritten⟩

end

/-! ## Tables of relabeled findings -/

namespace Finding

variable (findings : List Finding)

theorem filterMap_report?_relabel :
    (findings.map (relabel relabeling)).filterMap report? =
      (findings.filterMap report?).map (Report.relabel relabeling) := by
  rw [List.filterMap_map, List.map_filterMap]
  congr
  funext finding
  cases finding <;> rfl

theorem filterMap_typing?_relabel
    (inPlace : relabeling.InPlace) :
    (findings.map (relabel relabeling)).filterMap typing? =
      (findings.filterMap typing?).map fun pair => (pair.1, pair.2.rename relabeling.name) := by
  rw [List.filterMap_map, List.map_filterMap]
  congr
  funext finding
  cases finding <;> simp [relabel, inPlace.address_eq]

theorem filterMap_renaming?_relabel
    (inPlace : relabeling.InPlace) :
    (findings.map (relabel relabeling)).filterMap renaming? =
      (findings.filterMap renaming?).map fun pair => (pair.1, relabeling.name pair.2) := by
  rw [List.filterMap_map, List.map_filterMap]
  congr
  funext finding
  cases finding <;> simp [relabel, inPlace.address_eq]

theorem filterMap_lost?_relabel
    (inPlace : relabeling.InPlace) :
    (findings.map (relabel relabeling)).filterMap lost? = findings.filterMap lost? := by
  rw [List.filterMap_map]
  congr
  funext finding
  cases finding <;> simp [relabel, inPlace.address_eq]

end Finding

/-! ## What a check leaves of a relabeled program -/

/-- The tables of a state are those of another one, relabeled in place. -/
structure CheckState.Relabels (relabeling : Relabeling) (state other : CheckState) : Prop where
  reports : other.reports = state.reports.map (Report.relabel relabeling)
  types : other.types = state.types.map fun pair => (pair.1, pair.2.rename relabeling.name)
  names : other.names = state.names.map fun pair => (pair.1, relabeling.name pair.2)
  withoutResult : other.withoutResult = state.withoutResult

theorem lookup_map_snd
    {beta gamma : Type} (change : beta → gamma) (address : Address)
    (table : List (Address × beta)) :
    (table.map fun pair => (pair.1, change pair.2)).lookup address =
      (table.lookup address).map change := by
  induction table with
  | nil => rfl
  | cons head tail inductionHypothesis =>
      rw [List.map_cons, List.lookup_cons, List.lookup_cons]
      cases address == head.1 with
      | true => rfl
      | false => exact inductionHypothesis

namespace CheckState.Relabels

variable {state other : CheckState} (relabels : Relabels relabeling state other)

include relabels

theorem nameAt_eq
    (address : Address) (declared : String) :
    other.nameAt address (relabeling.name declared) =
      relabeling.name (state.nameAt address declared) := by
  rw [nameAt, relabels.names, lookup_map_snd, nameAt]
  cases state.names.lookup address <;> rfl

theorem resultAt_eq
    (address : Address) (declared : Ty) :
    other.resultAt address (declared.rename relabeling.name) =
      (state.resultAt address declared).rename relabeling.name := by
  rw [resultAt, relabels.withoutResult, resultAt, apply_ite (Ty.rename relabeling.name)]
  rfl

end CheckState.Relabels

namespace Program

variable {program : Program} {state other : CheckState}

theorem Outcome.names_table
    (outcome : program.Outcome state) :
    state.names = (program.findings.filterMap Finding.renaming?).reverse := by
  rw [outcome.found]
  exact (CheckState.notingAll_names _ _).trans (List.append_nil _)

theorem Outcome.withoutResult_table
    (outcome : program.Outcome state) :
    state.withoutResult = (program.findings.filterMap Finding.lost?).reverse := by
  rw [outcome.found]
  exact (CheckState.notingAll_withoutResult _ _).trans (List.append_nil _)

/-- The tables that the check of a relabeled program leaves are those of the check of the program,
relabeled. -/
theorem Outcome.relabels
    (outcome : program.Outcome state) (otherOutcome : (program.relabel relabeling).Outcome other)
    (faithful : relabeling.Faithful) (inPlace : relabeling.InPlace)
    (written : ∀ declaration ∈ program.structs, declaration.Written) :
    state.Relabels relabeling other := by
  have areFound := findings_relabel faithful inPlace written
  refine ⟨?_, ?_, ?_, ?_⟩
  · rw [← List.reverse_inj, otherOutcome.reports_eq, areFound, Finding.filterMap_report?_relabel,
      ← List.map_reverse, outcome.reports_eq]
  · rw [otherOutcome.types_eq, areFound, Finding.filterMap_typing?_relabel _ inPlace,
      ← List.map_reverse, outcome.types_eq]
  · rw [otherOutcome.names_table, areFound, Finding.filterMap_renaming?_relabel _ inPlace,
      ← List.map_reverse, outcome.names_table]
  · rw [otherOutcome.withoutResult_table, areFound, Finding.filterMap_lost?_relabel _ inPlace,
      outcome.withoutResult_table]

end Program

end StructLang
