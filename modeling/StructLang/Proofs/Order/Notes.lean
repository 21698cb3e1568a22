import StructLang.Proofs.Check.Distinct
import StructLang.Proofs.Order.Parts

/-!
# Notes of a program with distinct names

If names are distinct and all results are declared, then nothing is made up, and no declaration
leaves anything behind that the check of a later one reads. So the types and complaints that a check
finds in one declaration depend on the other ones only as far as these are there.
-/

namespace StructLang

open Finding

/-! ## Parts -/

/-- What is complained about at a function that has the name of a struct. -/
def FunctionDecl.conflictNotes (structs : List String) (address : Address)
    (declaration : FunctionDecl) : List Finding :=
  if declaration.name ∈ structs then
    [complaint .functionStructConflict address declaration.position [declaration.name]] else []

/-- What is complained about at the members of a struct. -/
def StructDecl.memberNotes (entries : List Entry) (address : Address) (declaration : StructDecl) :
    List Finding :=
  notes (declaration.checkFindings entries declaration.name 0 address)

/-- What is complained about at a struct on a cycle. -/
def StructDecl.cycleNotes (isCyclic : String → Bool) (address : Address)
    (declaration : StructDecl) : List Finding :=
  if isCyclic declaration.name then
    [complaint .cyclicDependency address declaration.position [declaration.name]] else []

/-- The types and complaints that are found at a function. -/
def FunctionDecl.bodyNotes (signature : Signature) (address : Address)
    (declaration : FunctionDecl) : List Finding :=
  notes (declaration.checkFindings signature address)

/-! ## Declarations -/

theorem StructDecl.notes_declareFindings
    {naming : Naming} {index : Nat} {structs : List StructDecl}
    (distinct : (structs.map (·.name)).Nodup)
    (areFree : ∀ name ∈ structs.map (·.name), name ∉ naming.taken) :
    notes (declareFindings naming index structs) = [] := by
  induction structs generalizing naming index with
  | nil => rfl
  | cons head tail inductionHypothesis =>
      have isFree := areFree head.name List.mem_cons_self
      rw [declareFindings, namingFindings, if_neg isFree, List.nil_append]
      exact inductionHypothesis (List.nodup_cons.mp distinct).2
        (Naming.areFree_next distinct areFree)

theorem FunctionDecl.notes_declareFindings
    {known : List String} {naming : Naming} {index : Nat} {functions : List FunctionDecl}
    (distinct : (functions.map (·.name)).Nodup)
    (areFree : ∀ name ∈ functions.map (·.name), name ∉ naming.taken) :
    notes (declareFindings known naming index functions) =
      inParts (fun number => conflictNotes known (Program.functionAddress (index + number)))
        functions := by
  induction functions generalizing naming index with
  | nil => rfl
  | cons head tail inductionHypothesis =>
      have isFree := areFree head.name List.mem_cons_self
      have isHead : notes (if head.name ∈ known then
          [complaint .functionStructConflict (Program.functionAddress index) head.position
            [head.name]] else []) =
            conflictNotes known (Program.functionAddress index) head := by
        rw [conflictNotes]
        split <;> rfl
      rw [declareFindings, namingFindings, if_neg isFree, List.nil_append, notes_append, isHead,
        inductionHypothesis (List.nodup_cons.mp distinct).2
          (Naming.areFree_next distinct areFree), inParts_cons]
      simp only [Nat.add_assoc, Nat.add_comm 1, Nat.add_zero]

/-! ## Members -/

section

variable {entries : List Entry} {container : String}

/-- The name that an accessor gets is none of the types and complaints. -/
theorem Stmt.notes_declareFindingsOf
    (here : Region) (naming otherNaming : Naming) (address : Address) (index : Nat)
    (members : List Stmt) :
    notes (declareFindingsOf entries container here naming address index members) =
      notes (declareFindingsOf entries container here otherNaming address index members) := by
  induction members generalizing here naming otherNaming index with
  | nil => rfl
  | cons head tail inductionHypothesis =>
      have ofHead : notes (head.declareFindings entries container here naming (index :: address)) =
          notes (head.declareFindings entries container here otherNaming (index :: address)) := by
        cases head with
        | accessor name =>
            have noNote (naming : Naming) : notes (if name ∈ naming.taken then
                [renamed (index :: address) (suffixed name (naming.made + 1))] else []) = [] := by
              split <;> rfl
            rw [declareFindings, declareFindings, notes_append, notes_append, noNote, noNote]
        | _ => rfl
      rw [declareFindingsOf, declareFindingsOf, notes_append, notes_append, ofHead,
        inductionHypothesis]

theorem StructDecl.notes_checkFindings
    (made : Nat) (address : Address) (declaration : StructDecl) :
    notes (declaration.checkFindings entries declaration.name made address) =
      declaration.memberNotes entries address := by
  rw [memberNotes, checkFindings, checkFindings, notes_append, notes_append,
    Stmt.notes_declareFindingsOf [] ⟨[], made⟩ ⟨[], 0⟩]

theorem StructDecl.notes_checkFindingsOf
    (made index : Nat) (structs : List StructDecl) :
    notes (checkFindingsOf entries made index
        (structs.map fun declaration => (declaration.name, declaration))) =
      inParts (fun number => memberNotes entries (Program.structAddress (index + number)))
        structs := by
  induction structs generalizing made index with
  | nil => rfl
  | cons head tail inductionHypothesis =>
      rw [List.map_cons, checkFindingsOf, notes_append, notes_checkFindings, inductionHypothesis,
        inParts_cons]
      simp only [Nat.add_assoc, Nat.add_comm 1, Nat.add_zero]

end

/-! ## Cycles -/

theorem map_filter_mapIdx
    {alpha beta gamma : Type} {place : Nat → alpha → beta} (keep : beta → Bool)
    (shown : beta → gamma) (items : List alpha) :
    ((items.mapIdx place).filter keep).map shown =
      inParts (fun index item => if keep (place index item) then [shown (place index item)] else [])
        items := by
  induction items generalizing place with
  | nil => rfl
  | cons head tail inductionHypothesis =>
      rw [List.mapIdx_cons, inParts_cons, ← inductionHypothesis, List.filter_cons]
      split <;> rfl

theorem notes_cycleFindings
    (graph : Containment) (structs : List StructDecl) :
    notes (cycleFindings graph (StructDecl.places
        (structs.map fun declaration => (declaration.name, declaration)))) =
      inParts (fun number => StructDecl.cycleNotes (fun name => graph.isAncestor name name)
        (Program.structAddress number)) structs := by
  rw [notes_of_notes isNote_cycleFindings, cycleFindings, StructDecl.places, map_filter_mapIdx,
    inParts_map]
  rfl

/-! ## Bodies -/

/-- As long as no result is lost, every function is checked in the same signature. -/
theorem FunctionDecl.notes_checkFindingsOf
    (signature : Signature) (index : Nat) {functions : List FunctionDecl}
    (noneLost : ∀ declaration ∈ functions, ∀ address,
      declaration.lost signature.entries address = []) :
    notes (checkFindingsOf signature index functions) =
      inParts (fun number => bodyNotes signature (Program.functionAddress (index + number)))
        functions := by
  induction functions generalizing index with
  | nil => rfl
  | cons head tail inductionHypothesis =>
      rw [List.forall_mem_cons] at noneLost
      have sameSignature : signature.losing [] = signature := rfl
      rw [checkFindingsOf, noneLost.1, sameSignature, notes_append,
        inductionHypothesis (index + 1) noneLost.2, inParts_cons]
      simp only [Nat.add_assoc, Nat.add_comm 1, Nat.add_zero]
      rfl

/-! ## Programs -/

namespace Program

/-- Whether every struct that is the result of a function is declared. -/
def DeclaresResults (program : Program) : Prop :=
  ∀ declaration ∈ program.functions, ∀ name, declaration.result = .struct name →
    name ∈ program.structs.map (·.name)

/-- What is complained about when a function is declared. -/
def conflictPart (program : Program) (index : Nat) : FunctionDecl → List Finding :=
  FunctionDecl.conflictNotes (program.structs.map (·.name)) (functionAddress index)

/-- What is complained about at the members of a struct. -/
def memberPart (program : Program) (index : Nat) : StructDecl → List Finding :=
  StructDecl.memberNotes program.entries (structAddress index)

/-- What is complained about at a struct on a cycle. -/
def cyclePart (program : Program) (index : Nat) : StructDecl → List Finding :=
  StructDecl.cycleNotes (fun name => program.containment.isAncestor name name)
    (structAddress index)

/-- The types and complaints that are found at a function. -/
def bodyPart (program : Program) (index : Nat) : FunctionDecl → List Finding :=
  FunctionDecl.bodyNotes program.signature (functionAddress index)

/-- The types and complaints that are found at the main body. -/
def mainPart (program : Program) : List Finding :=
  notes ((program.main?.map (MainDecl.checkFindings program.signature)).getD [])

variable {program : Program}

/-- The types and complaints of a program with distinct names, part by part. -/
theorem notes_findings
    (names : program.DistinctNames) (declares : program.DeclaresResults) :
    notes program.findings =
      inParts program.conflictPart program.functions ++
        (inParts program.memberPart program.structs ++
          (inParts program.cyclePart program.structs ++
            (inParts program.bodyPart program.functions ++ program.mainPart))) := by
  have noneTaken (names : List String) : ∀ name ∈ names, name ∉ ([] : List String) :=
    fun _ _ => List.not_mem_nil
  have ofStructs : notes (StructDecl.declareFindings ⟨[], 0⟩ 0 program.structs) = [] :=
    StructDecl.notes_declareFindings names.structs (noneTaken _)
  have ofFunctions : notes (FunctionDecl.declareFindings program.structNaming.taken
      ⟨[], program.structNaming.made⟩ 0 program.functions) =
        inParts program.conflictPart program.functions := by
    rw [FunctionDecl.notes_declareFindings names.functions (noneTaken _),
      taken_structNaming names.structs]
    simp only [Nat.zero_add]
    rfl
  have ofMembers : notes program.memberFindings = inParts program.memberPart program.structs := by
    rw [memberFindings, names.namedStructs_eq, StructDecl.notes_checkFindingsOf]
    simp only [Nat.zero_add]
    rfl
  have ofCycles : notes program.cycleFindings = inParts program.cyclePart program.structs := by
    rw [cycleFindings, names.namedStructs_eq, notes_cycleFindings]
    rfl
  have noneLost : ∀ declaration ∈ program.functions, ∀ address,
      declaration.lost program.signature.entries address = [] :=
    fun declaration isThere _ => names.lost_eq_nil (declares declaration isThere)
  have ofBodies : notes (FunctionDecl.checkFindingsOf program.signature 0 program.functions) =
      inParts program.bodyPart program.functions := by
    rw [FunctionDecl.notes_checkFindingsOf program.signature 0 noneLost]
    simp only [Nat.zero_add]
    rfl
  have isMain : program.mainSignature = program.signature := by
    rw [mainSignature, names.lostOf_eq_nil declares]
    rfl
  rw [findings, declareFindings, bodyFindings, isMain]
  simp only [notes_append, ofStructs, ofFunctions, ofMembers, ofCycles, ofBodies, List.nil_append,
    mainPart]

/-! ## Parts stay below their declarations -/

theorem staysBelow_notes
    {alpha : Type} {side : Address} {part : Nat → alpha → List Finding}
    (staysBelow : StaysBelow side part) :
    StaysBelow side fun index item => notes (part index item) :=
  fun index item finding isFound => staysBelow index item finding (List.mem_filter.mp isFound).1

theorem staysBelow_conflictPart : StaysBelow [1] program.conflictPart := by
  intro index declaration finding isFound place isAbout
  rw [conflictPart, FunctionDecl.conflictNotes] at isFound
  split at isFound
  · obtain rfl := List.mem_singleton.mp isFound
    exact Option.some.inj isAbout ▸ List.suffix_refl _
  · cases isFound

theorem staysBelow_cyclePart : StaysBelow [0] program.cyclePart := by
  intro index declaration finding isFound place isAbout
  rw [cyclePart, StructDecl.cycleNotes] at isFound
  split at isFound
  · obtain rfl := List.mem_singleton.mp isFound
    exact Option.some.inj isAbout ▸ List.suffix_refl _
  · cases isFound

theorem staysBelow_memberPart : StaysBelow [0] program.memberPart := by
  refine staysBelow_notes fun index declaration finding isFound place isAbout => ?_
  have isListed : finding ∈ StructDecl.checkFindingsOf program.entries 0 index
      [(declaration.name, declaration)] := List.mem_append_left _ isFound
  obtain ⟨number, pair, isThere, isDeclared⟩ :=
    (StructDecl.declaresAt_checkFindingsOf _ finding isListed).isAt_of_about? isAbout
  obtain rfl : number = 0 := by
    have isBelow := (List.getElem?_eq_some_iff.mp isThere).1
    simpa using isBelow
  obtain rfl := Option.some.inj isThere
  exact isDeclared.below (declaration.apart_nodes (structAddress index))

theorem staysBelow_bodyPart : StaysBelow [1] program.bodyPart := by
  refine staysBelow_notes fun index declaration finding isFound place isAbout => ?_
  rw [FunctionDecl.checkFindings_eq] at isFound
  rcases List.mem_append.mp isFound with inVisit | atResult
  · obtain ⟨visit, isVisit, rfl⟩ := Visit.exists_of_about? inVisit isAbout
    exact (declaration.apart_visits (functionAddress index)).below visit isVisit
  · rw [declaration.about?_resultFindings finding atResult isAbout]
    exact List.suffix_refl _

theorem suffix_of_mem_mainPart
    {finding : Finding} (isFound : finding ∈ program.mainPart) {place : Address}
    (isAbout : finding.about? = some place) : mainAddress <:+ place := by
  have isFoundThere := (List.mem_filter.mp isFound).1
  cases isMain : program.main? with
  | none =>
      rw [isMain] at isFoundThere
      cases isFoundThere
  | some declaration =>
      rw [isMain, Option.map_some, Option.getD_some, MainDecl.checkFindings,
        ← Stmt.findings_visits] at isFoundThere
      obtain ⟨visit, isVisit, rfl⟩ := Visit.exists_of_about? isFoundThere isAbout
      exact (List.suffix_cons 0 _).trans ((declaration.body.apart_visits _).below visit isVisit)

theorem allAbout_mainPart_eq_nil
    {address : Address} (notBelow : ¬ mainAddress <:+ address) :
    allAbout address program.mainPart = [] :=
  allAbout_eq_nil fun _ isFound isAbout => notBelow (suffix_of_mem_mainPart isFound isAbout)

/-! ## Where notes about a node are found -/

section

variable (names : program.DistinctNames) (declares : program.DeclaresResults)

include names declares

/-- Nothing is found about the program itself. -/
theorem allAbout_root : allAbout [] program.findings = [] := by
  have notBelow (number : Nat) : ¬ [number] <:+ ([] : Address) := by simp
  rw [← allAbout_notes, notes_findings names declares]
  simp only [allAbout_append, staysBelow_conflictPart.allAbout_eq_nil (notBelow 1),
    staysBelow_memberPart.allAbout_eq_nil (notBelow 0),
    staysBelow_cyclePart.allAbout_eq_nil (notBelow 0),
    staysBelow_bodyPart.allAbout_eq_nil (notBelow 1), allAbout_mainPart_eq_nil (notBelow 2),
    List.append_nil]

theorem allAbout_of_struct
    {address : Address} (isBelow : [0] <:+ address) :
    allAbout address program.findings =
      allAbout address (inParts program.memberPart program.structs) ++
        allAbout address (inParts program.cyclePart program.structs) := by
  have notFunction : ¬ [1] <:+ address := not_below_other Nat.zero_ne_one isBelow
  have notMain : ¬ mainAddress <:+ address := not_below_other (Nat.succ_ne_zero 1).symm isBelow
  rw [← allAbout_notes, notes_findings names declares]
  simp only [allAbout_append, staysBelow_conflictPart.allAbout_eq_nil notFunction,
    staysBelow_bodyPart.allAbout_eq_nil notFunction, allAbout_mainPart_eq_nil notMain,
    List.nil_append, List.append_nil]

theorem allAbout_of_function
    {address : Address} (isBelow : [1] <:+ address) :
    allAbout address program.findings =
      allAbout address (inParts program.conflictPart program.functions) ++
        allAbout address (inParts program.bodyPart program.functions) := by
  have notStruct : ¬ [0] <:+ address := not_below_other Nat.one_ne_zero isBelow
  have notMain : ¬ mainAddress <:+ address := not_below_other (Nat.succ_ne_self 1).symm isBelow
  rw [← allAbout_notes, notes_findings names declares]
  simp only [allAbout_append, staysBelow_memberPart.allAbout_eq_nil notStruct,
    staysBelow_cyclePart.allAbout_eq_nil notStruct, allAbout_mainPart_eq_nil notMain,
    List.nil_append, List.append_nil]

theorem allAbout_of_main
    {address : Address} (isBelow : mainAddress <:+ address) :
    allAbout address program.findings = allAbout address program.mainPart := by
  have notStruct : ¬ [0] <:+ address := not_below_other (Nat.succ_ne_zero 1) isBelow
  have notFunction : ¬ [1] <:+ address := not_below_other (Nat.succ_ne_self 1) isBelow
  rw [← allAbout_notes, notes_findings names declares]
  simp only [allAbout_append, staysBelow_conflictPart.allAbout_eq_nil notFunction,
    staysBelow_memberPart.allAbout_eq_nil notStruct,
    staysBelow_cyclePart.allAbout_eq_nil notStruct,
    staysBelow_bodyPart.allAbout_eq_nil notFunction, List.nil_append]

end

end Program

end StructLang
