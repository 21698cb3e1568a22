import StructLang.Proofs.Check.Meanings
import StructLang.Proofs.Check.Seen
import StructLang.Proofs.Check.Typings

/-!
# Where the types in a table come from

Everything that was visited in a body stands there, and every expression sees there what it was
visited with. So the type that the table has for an expression can be traced back: rules make up no
types, they take them apart. A type that lacks a property which all types in the text have comes
from a fault or from a name.
-/

namespace StructLang

/-! ## What was visited stands in the text -/

namespace Program

variable {program : Program} {number : Nat}

/-- Every part of an expression of a body is seen there, in the same regions. -/
theorem Sees.of_mem_parts
    {address : Address} {regions : List Region} {expression : Expr} {part : Address × Expr}
    (sees : program.Sees number address regions expression)
    (isPart : part ∈ expression.parts address) :
    program.Sees number part.1 regions part.2 := by
  rcases Expr.mem_parts.mp isPart with ⟨⟨way, operand⟩, isOperand, isBelow⟩ | ⟨-, rfl⟩
  · have smaller := Expr.sizeOf_lt_of_operand isOperand
    exact (Sees.ofExpr sees isOperand).of_mem_parts isBelow
  · exact sees
termination_by sizeOf expression

/-- What a visit looks at stands in the text where the visit was made, in the regions of the visit.
-/
def Retraces (program : Program) (visit : Visit) : Prop :=
  match visit.subject with
  | .expression expression =>
      ∃ number regions, program.Sees number visit.address regions expression ∧
        visit.signature = program.signatureFor number ∧
        visit.regions = regions ++ program.beyond number
  | .statement statement =>
      ∃ number here outer, program.Stands number visit.address here outer statement ∧
        visit.signature = program.signatureFor number ∧
        visit.regions = statement.within here outer ++ program.beyond number
  | .declaration _ => True

section

variable {address : Address} {here : Region} {outer : List Region} {statement : Stmt}

theorem Stands.retraces_operand
    {visit : Visit} {way : Address} {operand : Expr}
    (stands : program.Stands number address here outer statement)
    (isOperand : (way, operand) ∈ statement.operands)
    (isVisit : visit ∈ operand.visits (program.signatureFor number)
      (statement.within here (outer ++ program.beyond number)) (way ++ address)) :
    program.Retraces visit := by
  obtain ⟨part, isPart, rfl⟩ := List.mem_map.mp isVisit
  exact ⟨number, _, (Sees.ofStmt stands isOperand).of_mem_parts isPart, rfl,
    within_append here outer _ statement⟩

theorem Stands.retraces_self
    (stands : program.Stands number address here outer statement) :
    program.Retraces ⟨program.signatureFor number,
      statement.within here (outer ++ program.beyond number), address, .statement statement⟩ :=
  ⟨number, here, outer, stands, rfl, within_append here outer _ statement⟩

theorem retraces_declarations
    {signature : Signature} {visit : Visit} {index : Nat} {declarations : List VariableDecl}
    (isVisit : visit ∈ VariableDecl.visitsOf signature here outer address index declarations) :
    program.Retraces visit := by
  induction declarations generalizing here index with
  | nil => cases isVisit
  | cons head tail inductionHypothesis =>
      rcases List.mem_cons.mp isVisit with rfl | inTail
      · trivial
      · exact inductionHypothesis inTail

end

theorem Stands.retraces
    {address : Address} {here : Region} {outer : List Region} {statement : Stmt} {visit : Visit}
    (stands : program.Stands number address here outer statement)
    (isVisit : visit ∈ statement.visits (program.signatureFor number) here
      (outer ++ program.beyond number) address) :
    program.Retraces visit := by
  cases statement with
  | block statements =>
      rcases List.mem_append.mp isVisit with isBelow | isSelf
      · obtain ⟨index, inner, isThere, ofInner⟩ := Stmt.mem_visitsOf.mp isBelow
        have smaller := List.sizeOf_lt_of_mem (List.mem_of_getElem? isThere)
        rw [Nat.zero_add] at ofInner
        exact (Stands.ofBlock stands isThere).retraces ofInner
      · exact List.mem_singleton.mp isSelf ▸ stands.retraces_self
  | declare declared =>
      rcases List.mem_append.mp isVisit with isBelow | isSelf
      · exact retraces_declarations isBelow
      · exact List.mem_singleton.mp isSelf ▸ stands.retraces_self
  | assign target value =>
      rcases List.mem_append.mp isVisit with ofTarget | isVisit
      · exact stands.retraces_operand List.mem_cons_self ofTarget
      rcases List.mem_append.mp isVisit with ofValue | isSelf
      · exact stands.retraces_operand (List.mem_cons_of_mem _ (List.mem_singleton_self _)) ofValue
      · exact List.mem_singleton.mp isSelf ▸ stands.retraces_self
  | branch condition thenBody elseBody =>
      rcases List.mem_append.mp isVisit with ofCondition | isVisit
      · exact stands.retraces_operand (List.mem_singleton_self _) ofCondition
      rcases List.mem_cons.mp isVisit with rfl | isVisit
      · exact stands.retraces_self
      rcases List.mem_append.mp isVisit with ofThen | ofElse
      · exact (Stands.ofThen stands).retraces ofThen
      · exact (Stands.ofElse stands).retraces ofElse
  | loop condition body =>
      rcases List.mem_append.mp isVisit with ofCondition | isVisit
      · exact stands.retraces_operand (List.mem_singleton_self _) ofCondition
      rcases List.mem_cons.mp isVisit with rfl | ofBody
      · exact stands.retraces_self
      · exact (Stands.ofLoop stands).retraces ofBody
  | display | append | size | call =>
      rcases List.mem_append.mp isVisit with ofOperand | isSelf
      · exact stands.retraces_operand (List.mem_singleton_self _) ofOperand
      · exact List.mem_singleton.mp isSelf ▸ stands.retraces_self
  | giveBack value? =>
      cases value? with
      | none => exact List.mem_singleton.mp isVisit ▸ stands.retraces_self
      | some value =>
          rcases List.mem_append.mp isVisit with ofOperand | isSelf
          · exact stands.retraces_operand (List.mem_singleton_self _) ofOperand
          · exact List.mem_singleton.mp isSelf ▸ stands.retraces_self
  | accessor | stray | absent => cases isVisit
termination_by sizeOf statement
decreasing_by
  all_goals
    subst_vars
    simp only [Stmt.block.sizeOf_spec, Stmt.branch.sizeOf_spec, Stmt.loop.sizeOf_spec]
    omega

/-- Every visit of a program can be retraced in its text. -/
theorem retraces_of_mem_visits
    {visit : Visit} (isVisit : visit ∈ program.visits) : program.Retraces visit := by
  rcases List.mem_append.mp isVisit with ofFunction | ofMain
  · obtain ⟨place, declaration, isThere, ofDeclaration⟩ :=
      FunctionDecl.mem_visitsOf.mp ofFunction
    rw [Nat.zero_add] at ofDeclaration
    rcases List.mem_append.mp ofDeclaration with ofBody | ofParameter
    · refine (Stands.function isThere).retraces ?_
      rw [beyond, if_pos (List.getElem?_eq_some_iff.mp isThere).1]
      exact ofBody
    · exact retraces_declarations ofParameter
  · rw [mainVisits] at ofMain
    cases isThere : program.main? with
    | none => simp [isThere] at ofMain
    | some declaration =>
        rw [isThere] at ofMain
        refine (Stands.main isThere).retraces ?_
        rw [beyond, if_neg (Nat.lt_irrefl _), signatureFor, List.take_length]
        exact ofMain

variable {state : CheckState}

/-! ## Types come from visits -/

/-- Every type that is found is found in a visit. -/
theorem exists_visit_of_typed
    {address : Address} {type : Ty} (isFound : .typed address type ∈ program.findings) :
    ∃ visit ∈ program.visits, .typed address type ∈ visit.findings := by
  rw [findings, List.mem_append, List.mem_append, List.mem_append, declareFindings,
    List.mem_append] at isFound
  rcases isFound with (ofStruct | ofFunction) | ofMember | ofCycle | inBody
  · exact (StructDecl.declaresAt_declareFindings program.structs _ ofStruct).elim
  · exact (FunctionDecl.declaresAt_declareFindings program.functions _ ofFunction).elim
  · exact (StructDecl.declaresAt_checkFindingsOf program.namedStructs _ ofMember).elim
  · exact (declaresAt_cycleFindings program.namedStructs _ ofCycle).elim
  · rcases mem_bodyFindings inBody with isVisited | ⟨number, declaration, -, atResult⟩
    · exact isVisited
    · rcases FunctionDecl.mem_resultFindings atResult with ⟨name, isComplaint⟩ | isLost
      · cases isComplaint
      · cases isLost

/-- What an expression of a body sees of the program around it. -/
def seenFrom (program : Program) (number : Nat) (regions : List Region) : Surroundings :=
  (program.signatureFor number).around (regions ++ program.beyond number)

/-- What has a type is an expression of a body or an assignment in one. -/
inductive Typed (program : Program) : Address → Ty → Prop
  | expression {number : Nat} {address : Address} {regions : List Region} {expression : Expr}
      (sees : program.Sees number address regions expression) :
      Typed program address (expression.typeIn (program.seenFrom number regions))
  | assignment {number : Nat} {address : Address} {here : Region} {outer : List Region}
      {target value : Expr} {position : Position}
      (stands : program.Stands number address here outer (.assign target value position)) :
      Typed program address (Rule.binaryOp .assign
        (target.typeIn (program.seenFrom number (here :: outer)))
        (value.typeIn (program.seenFrom number (here :: outer)))).ty

theorem mem_settled_typed
    {address place : Address} {position : Position} {verdict : Verdict} {type : Ty}
    (isFound : .typed place type ∈ Finding.settled address position verdict) :
    place = address ∧ type = verdict.ty := by
  cases verdict <;> simpa [Finding.settled, Finding.complaint, Verdict.ty] using isFound

/-- What is in the table of types was found in a visit. -/
theorem Outcome.exists_visit_of_recorded
    (outcome : program.Outcome state) {address : Address} {type : Ty}
    (isRecorded : (address, type) ∈ state.types) :
    ∃ visit ∈ program.visits, Finding.typed address type ∈ visit.findings := by
  rw [outcome.types_eq, List.mem_reverse, List.mem_filterMap] at isRecorded
  obtain ⟨finding, isFound, isTyping⟩ := isRecorded
  cases finding with
  | typed place found =>
      obtain ⟨rfl, rfl⟩ := Prod.mk.inj (Option.some.inj isTyping)
      exact exists_visit_of_typed isFound
  | _ => cases isTyping

theorem Outcome.typed_of_mem_types
    (outcome : program.Outcome state) {address : Address} {type : Ty}
    (isRecorded : (address, type) ∈ state.types) : program.Typed address type := by
  obtain ⟨⟨signature, regions, place, subject⟩, isVisit, isOwn⟩ :=
    outcome.exists_visit_of_recorded isRecorded
  have retraces := retraces_of_mem_visits isVisit
  cases subject with
  | expression expression =>
      obtain ⟨number, around, sees, rfl, rfl⟩ := retraces
      obtain ⟨rfl, rfl⟩ := mem_settled_typed isOwn
      exact .expression sees
  | statement statement =>
      obtain ⟨number, here, outer, stands, rfl, rfl⟩ := retraces
      dsimp only [Visit.findings] at isOwn
      obtain ⟨target, value, position, rfl⟩ | isNothing | ⟨kind, isOne⟩ :=
        statement.ownFindings_cases ((program.signatureFor number).around
          (statement.within here outer ++ program.beyond number)) place
      · obtain ⟨rfl, rfl⟩ := mem_settled_typed isOwn
        exact .assignment stands
      · cases isNothing ▸ isOwn
      · cases List.mem_singleton.mp (isOne ▸ isOwn)
  | declaration declaration =>
      obtain ⟨kind, -, isComplaint⟩ := VariableDecl.exists_of_mem_findings isOwn
      cases isComplaint

end Program

end StructLang
