import StructLang.Proofs.Check.Addresses
import StructLang.Proofs.Check.Outcome

/-!
# What the tables hold for a visited node

All bodies of a program are visited, and no two visits are of the same node. What the tables hold
for a visited node in the end is what was found in its visit, whatever else was found before or
after.
-/

namespace StructLang

/-! ## Findings about a node -/

namespace Finding

/-- The node that a finding is about, if it goes into a table by node. -/
def about? : Finding → Option Address
  | typed address _ => some address
  | reported report => report.address?
  | _ => none

/-- The findings about a node. -/
def allAbout (address : Address) (findings : List Finding) : List Finding :=
  findings.filter (·.about? = some address)

theorem allAbout_append
    (address : Address) (earlier later : List Finding) :
    allAbout address (earlier ++ later) = allAbout address earlier ++ allAbout address later :=
  List.filter_append _ _

theorem allAbout_eq_nil
    {address : Address} {findings : List Finding}
    (elsewhere : ∀ finding ∈ findings, finding.about? ≠ some address) :
    allAbout address findings = [] :=
  List.filter_eq_nil_iff.mpr fun finding member => by simpa using elsewhere finding member

theorem DeclaresAt.isAt_of_about?
    {kinds : List DiagnosticKind} {isAt : Address → Prop} {finding : Finding}
    (declares : finding.DeclaresAt kinds isAt) {address : Address}
    (isAbout : finding.about? = some address) : isAt address := by
  cases finding with
  | reported report =>
      obtain ⟨-, -, place, isPlace, isThere⟩ := declares
      rw [about?, isPlace, Option.some.injEq] at isAbout
      exact isAbout ▸ isThere
  | typed => exact declares.elim
  | renamed | resultLost | containing | contained => cases isAbout

theorem DeclaresAt.about?_ne
    {kinds : List DiagnosticKind} {isAt : Address → Prop} {finding : Finding}
    (declares : finding.DeclaresAt kinds isAt) {address : Address}
    (elsewhere : ¬ isAt address) : finding.about? ≠ some address :=
  fun isAbout => elsewhere (declares.isAt_of_about? isAbout)

theorem about?_settled
    {address : Address} {position : Position} {verdict : Verdict} :
    ∀ finding ∈ settled address position verdict, finding.about? = some address := by
  cases verdict <;> simp [settled, complaint, about?]

end Finding

namespace Visit

theorem about?_findings
    (visit : Visit) : ∀ finding ∈ visit.findings, finding.about? = some visit.address := by
  obtain ⟨signature, regions, address, subject⟩ := visit
  cases subject with
  | expression expression => exact Finding.about?_settled
  | statement statement =>
      dsimp only [findings]
      obtain ⟨_, _, _, rfl⟩ | isNothing | ⟨kind, isOne⟩ :=
        statement.ownFindings_cases (signature.around regions) address
      · exact Finding.about?_settled
      · exact isNothing ▸ List.forall_mem_nil _
      · exact isOne ▸ List.forall_mem_singleton.mpr rfl
  | declaration declaration =>
      intro finding isFound
      obtain ⟨kind, -, rfl⟩ := VariableDecl.exists_of_mem_findings isFound
      rfl

theorem allAbout_findings
    (visit : Visit) : Finding.allAbout visit.address visit.findings = visit.findings :=
  List.filter_eq_self.mpr fun finding member => by
    simpa using visit.about?_findings finding member

/-- What is found in visits is about the nodes of these visits. -/
theorem exists_of_about?
    {visits : List Visit} {finding : Finding} (isFound : finding ∈ findingsOf visits)
    {address : Address} (isAbout : finding.about? = some address) :
    ∃ visit ∈ visits, visit.address = address := by
  obtain ⟨visit, isVisit, isOwn⟩ := List.mem_flatMap.mp isFound
  rw [visit.about?_findings finding isOwn, Option.some.injEq] at isAbout
  exact ⟨visit, isVisit, isAbout⟩

theorem allAbout_findingsOf_eq_nil
    {address : Address} {visits : List Visit} (isNew : address ∉ visits.map Visit.address) :
    Finding.allAbout address (findingsOf visits) = [] := by
  apply Finding.allAbout_eq_nil
  intro finding isFound isAbout
  obtain ⟨visit, isVisit, rfl⟩ := exists_of_about? isFound isAbout
  exact isNew (List.mem_map_of_mem isVisit)

/-- Among visits of distinct nodes, what is found about a node is found in its visit. -/
theorem allAbout_findingsOf
    {visits : List Visit} (distinct : (visits.map Visit.address).Nodup) {visit : Visit}
    (member : visit ∈ visits) :
    Finding.allAbout visit.address (findingsOf visits) = visit.findings := by
  obtain ⟨before, after, rfl⟩ := List.append_of_mem member
  rw [List.map_append, List.map_cons] at distinct
  obtain ⟨-, distinctAfter, disjoint⟩ := List.nodup_append.mp distinct
  have notBefore : visit.address ∉ before.map Visit.address := fun isBefore =>
    disjoint _ isBefore _ List.mem_cons_self rfl
  rw [findingsOf_append, findingsOf_cons, Finding.allAbout_append, Finding.allAbout_append,
    allAbout_findingsOf_eq_nil notBefore, allAbout_findings,
    allAbout_findingsOf_eq_nil (List.nodup_cons.mp distinctAfter).1, List.nil_append,
    List.append_nil]

end Visit

/-! ## Where the visits of a program are -/

namespace FunctionDecl

theorem apart_visits
    {signature : Signature} (address : Address) (declaration : FunctionDecl) :
    Apart Visit.address address (declaration.visits signature address) := by
  have parameters : Apart Visit.address (0 :: address) (VariableDecl.visitsOf signature
      declaration.body.declares [[]] (0 :: address) 0 declaration.parameters) :=
    (VariableDecl.spread_visitsOf _ 0 declaration.parameters).apart
  have body : Apart Visit.address (1 :: address)
      (declaration.body.visits signature [] [[]] (1 :: address)) :=
    declaration.body.apart_visits _
  exact (Spread.append parameters (.of_child body)).apart.of_perm List.perm_append_comm

theorem spread_visitsOf
    {signature : Signature} (index : Nat) (functions : List FunctionDecl) :
    Spread Visit.address [1] index (visitsOf signature index functions) := by
  induction functions generalizing signature index with
  | nil => exact Spread.nil
  | cons head tail inductionHypothesis =>
      exact Spread.append (head.apart_visits _) (inductionHypothesis (index + 1))

/-- Visits of functions are of nodes below the body or the parameters of one of them. -/
theorem below_of_mem_visitsOf
    {signature : Signature} {index : Nat} {functions : List FunctionDecl} {visit : Visit}
    (member : visit ∈ visitsOf signature index functions) :
    ∃ side number, side :: Program.functionAddress number <:+ visit.address := by
  obtain ⟨number, declaration, -, isVisit⟩ := mem_visitsOf.mp member
  rcases List.mem_append.mp isVisit with ofBody | ofParameter
  · exact ⟨1, _, (declaration.body.apart_visits _).below visit ofBody⟩
  · exact ⟨0, _,
      (VariableDecl.spread_visitsOf _ 0 declaration.parameters).apart.below visit ofParameter⟩

theorem about?_resultFindings
    {entries : List Entry} {address place : Address} (declaration : FunctionDecl) :
    ∀ finding ∈ declaration.resultFindings entries address,
      finding.about? = some place → place = address := by
  simp only [resultFindings]
  cases declaration.result with
  | struct name =>
      dsimp only
      split <;> simp [Finding.complaint, Finding.about?, eq_comm]
  | _ => exact List.forall_mem_nil _

/-- Findings about anything but functions themselves are those of visits. -/
theorem allAbout_checkFindingsOf
    {signature : Signature} {address : Address}
    (isInside : ∀ number, address ≠ Program.functionAddress number) (index : Nat)
    (functions : List FunctionDecl) :
    Finding.allAbout address (checkFindingsOf signature index functions) =
      Finding.allAbout address (Visit.findingsOf (visitsOf signature index functions)) := by
  induction functions generalizing signature index with
  | nil => rfl
  | cons head tail inductionHypothesis =>
      have noResult : Finding.allAbout address
          (head.resultFindings signature.entries (Program.functionAddress index)) = [] :=
        Finding.allAbout_eq_nil fun finding member isAbout =>
          isInside index (head.about?_resultFindings finding member isAbout)
      rw [checkFindingsOf, checkFindings_eq, visitsOf, Visit.findingsOf_append]
      simp only [Finding.allAbout_append, noResult, inductionHypothesis, List.append_nil]

end FunctionDecl

namespace Program

variable {program : Program}

theorem spread_visits
    (program : Program) : Spread Visit.address [] 1 program.visits := by
  refine Spread.append (FunctionDecl.spread_visitsOf 0 program.functions).apart
    (Spread.of_child ?_)
  rw [mainVisits]
  cases program.main? with
  | none => exact Apart.nil
  | some declaration => exact (Spread.of_child (declaration.body.apart_visits _)).apart

/-- No visit is of a function, of a struct or of anything below a struct. -/
theorem address_of_mem_visits
    {visit : Visit} (member : visit ∈ program.visits) :
    (∀ number, visit.address ≠ functionAddress number) ∧ ¬ [0] <:+ visit.address := by
  rcases List.mem_append.mp member with ofFunction | ofMain
  · obtain ⟨side, number, isBelow⟩ := FunctionDecl.below_of_mem_visitsOf ofFunction
    refine ⟨fun other same => ?_, not_below_other Nat.one_ne_zero ?_⟩
    · rw [same] at isBelow
      exact Nat.not_succ_le_self 2 isBelow.length_le
    · exact (List.suffix_append [side, number] [1]).trans isBelow
  · have isBelow : [2] <:+ visit.address := by
      rw [mainVisits] at ofMain
      cases isMain : program.main? with
      | none => simp [isMain] at ofMain
      | some declaration =>
          rw [isMain] at ofMain
          exact (List.suffix_cons 0 [2]).trans
            ((declaration.body.apart_visits _).below visit ofMain)
    refine ⟨fun other same => ?_, not_below_other (Nat.succ_ne_zero 1) isBelow⟩
    exact not_below_other (Nat.succ_ne_self 1) isBelow (same ▸ List.suffix_cons other [1])

/-- What is found when structs and functions are declared is about these. -/
theorem allAbout_declareFindings
    {address : Address} (notStruct : ∀ number, address ≠ structAddress number)
    (notFunction : ∀ number, address ≠ functionAddress number) :
    Finding.allAbout address program.declareFindings = [] := by
  refine Finding.allAbout_eq_nil fun finding isThere => ?_
  rcases List.mem_append.mp isThere with ofStruct | ofFunction
  · refine (StructDecl.declaresAt_declareFindings _ finding ofStruct).about?_ne ?_
    rintro ⟨number, -, same⟩
    exact notStruct _ same
  · refine (FunctionDecl.declaresAt_declareFindings _ finding ofFunction).about?_ne ?_
    rintro ⟨number, -, same⟩
    exact notFunction _ same

theorem allAbout_cycleFindings
    {address : Address} (notStruct : ∀ number, address ≠ structAddress number) :
    Finding.allAbout address program.cycleFindings = [] := by
  refine Finding.allAbout_eq_nil fun finding isThere => ?_
  refine (declaresAt_cycleFindings _ finding isThere).about?_ne ?_
  rintro ⟨number, -, same⟩
  exact notStruct number same

theorem allAbout_findings
    {visit : Visit} (member : visit ∈ program.visits) :
    Finding.allAbout visit.address program.findings = visit.findings := by
  obtain ⟨notFunction, notInStruct⟩ := address_of_mem_visits member
  have isStruct (number : Nat) : [0] <:+ structAddress number := List.suffix_cons _ _
  have notStruct (number : Nat) : visit.address ≠ structAddress number :=
    fun same => notInStruct (same ▸ isStruct number)
  have noMember : Finding.allAbout visit.address program.memberFindings = [] := by
    refine Finding.allAbout_eq_nil fun finding isThere => ?_
    refine (StructDecl.declaresAt_checkFindingsOf _ finding isThere).about?_ne ?_
    rintro ⟨number, pair, -, isDeclared⟩
    exact notInStruct ((isStruct _).trans (isDeclared.below (pair.2.apart_nodes _)))
  rw [findings, bodyFindings, mainFindings_eq]
  simp only [Finding.allAbout_append, allAbout_declareFindings notStruct notFunction, noMember,
    allAbout_cycleFindings notStruct, List.nil_append,
    FunctionDecl.allAbout_checkFindingsOf notFunction]
  rw [← Finding.allAbout_append, ← Visit.findingsOf_append]
  exact Visit.allAbout_findingsOf program.spread_visits.distinct member

end Program

end StructLang
