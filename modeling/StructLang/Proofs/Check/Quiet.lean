import StructLang.Proofs.Check.Distinct

/-!
# Declarations without complaints

Nothing is complained about at the declarations of structs and functions exactly if their names are
apart. Then they are known under their own names, and nothing is complained about at the fields and
parameters of structs exactly if their regions are clear, and nothing at cycles exactly if no struct
is part of itself.
-/

namespace StructLang

/-! ## Findings without complaints -/

namespace Finding

/-- Nothing is complained about in some findings. -/
def Quiet (findings : List Finding) : Prop := findings.filterMap report? = []

@[simp] theorem quiet_nil : Quiet [] := rfl

@[simp] theorem quiet_append
    {earlier later : List Finding} : Quiet (earlier ++ later) ↔ Quiet earlier ∧ Quiet later := by
  rw [Quiet, List.filterMap_append, List.append_eq_nil_iff, Quiet, Quiet]

theorem quiet_cons
    {head : Finding} {tail : List Finding} (isQuiet : head.report? = none) :
    Quiet (head :: tail) ↔ Quiet tail := by
  rw [Quiet, List.filterMap_cons_none isQuiet, Quiet]

theorem Quiet.of_subset
    {some others : List Finding} (isQuiet : Quiet others) (subset : some ⊆ others) :
    Quiet some := by
  rw [Quiet, List.filterMap_eq_nil_iff] at isQuiet ⊢
  exact fun finding isFound => isQuiet finding (subset isFound)

/-- A complaint is made or not. -/
theorem quiet_ite
    {isFault : Prop} [Decidable isFault] {kind : DiagnosticKind} {address : Address}
    {position : Position} {names : List String} {others : List Finding} :
    Quiet (if isFault then complaint kind address position names :: others else []) ↔
      ¬ isFault := by
  by_cases isSo : isFault
  · rw [if_pos isSo]
    simp [Quiet, complaint, isSo]
  · rw [if_neg isSo]
    simp [isSo]

/-- A verdict is quiet if it gives a type. -/
theorem quiet_settled
    {address : Address} {position : Position} {verdict : Verdict} :
    Quiet (settled address position verdict) ↔ verdict = .type verdict.ty := by
  cases verdict with
  | type type => exact iff_of_true rfl rfl
  | fault kind names => simp [Quiet, settled, complaint]

end Finding

open Finding

/-! ## Regions that grow -/

namespace Program

variable {program : Program} {here earlier later region : Region}

/-- A region may be declared behind another one: it is clear, and its names are new. -/
structure Joins (program : Program) (here region : Region) : Prop where
  clear : program.ClearRegion region
  new : ∀ name ∈ region.names, name ∉ here.names

theorem joins_nil_left : program.Joins [] region ↔ program.ClearRegion region :=
  ⟨Joins.clear, fun clear => ⟨clear, fun _ _ => List.not_mem_nil⟩⟩

theorem joins_nil : program.Joins here [] :=
  ⟨⟨List.nodup_nil, List.forall_mem_nil _, List.forall_mem_nil _⟩, List.forall_mem_nil _⟩

theorem clearRegion_append :
    program.ClearRegion (earlier ++ later) ↔
      program.ClearRegion earlier ∧ program.Joins earlier later := by
  have isAppend : (earlier ++ later).names = earlier.names ++ later.names := List.map_append
  constructor
  · intro clear
    have distinct := clear.distinct
    have notStruct := clear.notStruct
    have notFunction := clear.notFunction
    rw [isAppend, List.nodup_append] at distinct
    rw [isAppend, List.forall_mem_append] at notStruct notFunction
    exact ⟨⟨distinct.1, notStruct.1, notFunction.1⟩,
      ⟨distinct.2.1, notStruct.2, notFunction.2⟩,
      fun name isLater isEarlier => distinct.2.2 name isEarlier name isLater rfl⟩
  · rintro ⟨clear, joins⟩
    constructor
    · rw [isAppend, List.nodup_append]
      exact ⟨clear.distinct, joins.clear.distinct,
        fun name isEarlier other isLater same => joins.new other isLater (same ▸ isEarlier)⟩
    · rw [isAppend, List.forall_mem_append]
      exact ⟨clear.notStruct, joins.clear.notStruct⟩
    · rw [isAppend, List.forall_mem_append]
      exact ⟨clear.notFunction, joins.clear.notFunction⟩

theorem joins_append :
    program.Joins here (earlier ++ later) ↔
      program.Joins here earlier ∧ program.Joins (here ++ earlier) later := by
  have isAppend : (earlier ++ later).names = earlier.names ++ later.names := List.map_append
  have isAppendHere : (here ++ earlier).names = here.names ++ earlier.names := List.map_append
  constructor
  · intro joins
    obtain ⟨clear, joinsEarlier⟩ := clearRegion_append.mp joins.clear
    have new := joins.new
    rw [isAppend, List.forall_mem_append] at new
    refine ⟨⟨clear, new.1⟩, joinsEarlier.clear, ?_⟩
    intro name isLater
    rw [isAppendHere, List.mem_append, not_or]
    exact ⟨new.2 name isLater, joinsEarlier.new name isLater⟩
  · rintro ⟨joins, joinsBoth⟩
    have new := joinsBoth.new
    simp only [isAppendHere, List.mem_append, not_or] at new
    refine ⟨clearRegion_append.mpr ⟨joins.clear, joinsBoth.clear, fun name isLater => ?_⟩, ?_⟩
    · exact (new name isLater).2
    · rw [isAppend, List.forall_mem_append]
      exact ⟨joins.new, fun name isLater => (new name isLater).1⟩

end Program

/-! ## Declarations of structs and functions -/

theorem quiet_namingFindings
    {kind : DiagnosticKind} {address : Address} {position : Position} {naming : Naming}
    {name : String} :
    Quiet (namingFindings kind address position naming name) ↔ name ∉ naming.taken :=
  quiet_ite

theorem StructDecl.quiet_declareFindings
    {naming : Naming} {index : Nat} {structs : List StructDecl} :
    Quiet (declareFindings naming index structs) ↔
      (structs.map (·.name)).Nodup ∧ ∀ declaration ∈ structs, declaration.name ∉ naming.taken := by
  induction structs generalizing naming index with
  | nil => simp [declareFindings]
  | cons head tail inductionHypothesis =>
      rw [declareFindings, quiet_append, quiet_namingFindings, quiet_cons rfl, inductionHypothesis,
        List.map_cons, List.nodup_cons, List.forall_mem_cons]
      by_cases isFree : head.name ∉ naming.taken
      · simp only [Naming.notMem_next isFree, List.mem_map]
        grind
      · simp only [isFree, false_and, and_false]

theorem FunctionDecl.quiet_declareFindings
    {known : List String} {naming : Naming} {index : Nat} {functions : List FunctionDecl} :
    Quiet (declareFindings known naming index functions) ↔
      (functions.map (·.name)).Nodup ∧
        ∀ declaration ∈ functions, declaration.name ∉ naming.taken ∧ declaration.name ∉ known := by
  induction functions generalizing naming index with
  | nil => simp [declareFindings]
  | cons head tail inductionHypothesis =>
      rw [declareFindings, quiet_append, quiet_append, quiet_ite, quiet_namingFindings,
        inductionHypothesis, List.map_cons, List.nodup_cons, List.forall_mem_cons]
      by_cases isFree : head.name ∉ naming.taken
      · simp only [Naming.notMem_next isFree, List.mem_map]
        grind
      · simp only [isFree, false_and, and_false]

namespace Program

variable {program : Program} {name : String}

theorem quiet_declareFindings : Quiet program.declareFindings ↔ program.NamesApart := by
  rw [declareFindings, quiet_append, StructDecl.quiet_declareFindings,
    FunctionDecl.quiet_declareFindings]
  constructor
  · rintro ⟨⟨structs, -⟩, functions, areFree⟩
    rw [taken_structNaming structs] at areFree
    exact ⟨structs, functions, fun declaration isThere => (areFree declaration isThere).2⟩
  · intro names
    rw [taken_structNaming names.structs]
    exact ⟨⟨names.structs, fun _ _ => List.not_mem_nil⟩, names.functions,
      fun declaration isThere => ⟨List.not_mem_nil, names.between declaration isThere⟩⟩

end Program

/-! ## Fields and parameters -/

section Members

variable {program : Program} {container : String} {here : Region} {naming : Naming}
  {address : Address} {index : Nat} (names : program.NamesApart)

include names

theorem VariableDecl.quiet_findings
    {declaration : VariableDecl} :
    Quiet (declaration.findings program.entries here address) ↔
      program.Joins here [declaration] := by
  simp only [findings, quiet_append, quiet_ite, names.distinct.isSome_struct,
    names.distinct.isSome_function]
  constructor
  · rintro ⟨notStruct, notFunction, isNew⟩
    exact ⟨⟨List.nodup_singleton _, List.forall_mem_singleton.mpr notStruct,
      List.forall_mem_singleton.mpr notFunction⟩, List.forall_mem_singleton.mpr isNew⟩
  · intro joins
    exact ⟨joins.clear.notStruct _ List.mem_cons_self,
      joins.clear.notFunction _ List.mem_cons_self, joins.new _ List.mem_cons_self⟩

theorem VariableDecl.quiet_findingsOf
    {declarations : List VariableDecl} :
    Quiet (findingsOf program.entries here address index declarations) ↔
      program.Joins here declarations := by
  induction declarations generalizing here index with
  | nil => exact iff_of_true quiet_nil Program.joins_nil
  | cons head tail inductionHypothesis =>
      rw [findingsOf, quiet_append, quiet_findings names, inductionHypothesis]
      exact Program.joins_append.symm

theorem VariableDecl.quiet_fieldFindings
    {field : VariableDecl} :
    Quiet (field.fieldFindings program.entries container here address) ↔
      program.Joins here [field] := by
  rw [fieldFindings, quiet_append, quiet_findings names]
  refine and_iff_right ?_
  cases field.type <;> rfl

theorem VariableDecl.quiet_fieldFindingsOf
    {fields : List VariableDecl} :
    Quiet (fieldFindingsOf program.entries container here address index fields) ↔
      program.Joins here fields := by
  induction fields generalizing here index with
  | nil => exact iff_of_true quiet_nil Program.joins_nil
  | cons head tail inductionHypothesis =>
      rw [fieldFindingsOf, quiet_append, quiet_fieldFindings names, inductionHypothesis]
      exact Program.joins_append.symm

theorem Stmt.quiet_declareFindings
    {member : Stmt} :
    Quiet (member.declareFindings program.entries container here naming address) ↔
      program.Joins here member.fields := by
  cases member with
  | declare fields position => exact VariableDecl.quiet_fieldFindingsOf names
  | accessor name type parameters field setBody getBody position =>
      have isQuiet : Quiet (if name ∈ naming.taken then
          [.renamed address (suffixed name (naming.made + 1))] else []) := by
        split <;> rfl
      rw [declareFindings, quiet_append, VariableDecl.quiet_fieldFindings names]
      exact and_iff_left isQuiet
  | _ => exact iff_of_true quiet_nil Program.joins_nil

theorem Stmt.quiet_declareFindingsOf
    {members : List Stmt} :
    Quiet (declareFindingsOf program.entries container here naming address index members) ↔
      program.Joins here (members.flatMap fields) := by
  induction members generalizing here naming index with
  | nil => exact iff_of_true quiet_nil Program.joins_nil
  | cons head tail inductionHypothesis =>
      rw [declareFindingsOf, quiet_append, quiet_declareFindings names, inductionHypothesis]
      exact Program.joins_append.symm

theorem Stmt.quiet_bindFindingsOf
    {members : List Stmt} :
    Quiet (bindFindingsOf program.entries address index members) ↔
      ∀ region ∈ members.flatMap accessorParameters, program.ClearRegion region := by
  induction members generalizing index with
  | nil => exact iff_of_true quiet_nil (List.forall_mem_nil _)
  | cons head tail inductionHypothesis =>
      rw [bindFindingsOf, quiet_append, inductionHypothesis, List.flatMap_cons,
        List.forall_mem_append]
      refine and_congr_left fun _ => ?_
      cases head with
      | accessor name type parameters field setBody getBody position =>
          rw [bindFindings, VariableDecl.quiet_findingsOf names, Program.joins_nil_left]
          exact List.forall_mem_singleton.symm
      | _ => exact iff_of_true quiet_nil (List.forall_mem_nil _)

theorem StructDecl.quiet_checkFindings
    {made : Nat} {declaration : StructDecl} :
    Quiet (declaration.checkFindings program.entries container made address) ↔
      ∀ region ∈ declaration.regions, program.ClearRegion region := by
  rw [checkFindings, quiet_append, Stmt.quiet_declareFindingsOf names,
    Stmt.quiet_bindFindingsOf names, Program.joins_nil_left, regions, List.forall_mem_cons]
  rfl

theorem StructDecl.quiet_checkFindingsOf
    {made : Nat} {structs : List (String × StructDecl)} :
    Quiet (checkFindingsOf program.entries made index structs) ↔
      ∀ declaration ∈ structs.map Prod.snd, ∀ region ∈ declaration.regions,
        program.ClearRegion region := by
  induction structs generalizing made index with
  | nil => exact iff_of_true quiet_nil (List.forall_mem_nil _)
  | cons head tail inductionHypothesis =>
      rw [checkFindingsOf, quiet_append, quiet_checkFindings names, inductionHypothesis,
        List.map_cons, List.forall_mem_cons]

end Members

/-! ## Cycles -/

theorem quiet_cycleFindings
    {graph : Containment} {places : List (String × Address × Position)} :
    Quiet (cycleFindings graph places) ↔
      ∀ place ∈ places, ¬ graph.isAncestor place.1 place.1 = true := by
  induction places with
  | nil => exact iff_of_true quiet_nil (List.forall_mem_nil _)
  | cons head tail inductionHypothesis =>
      rw [List.forall_mem_cons, ← inductionHypothesis, cycleFindings, List.filter_cons]
      by_cases isCycle : graph.isAncestor head.1 head.1 = true
      · rw [if_pos isCycle]
        refine iff_of_false ?_ fun isSo => isSo.1 isCycle
        intro isQuiet
        cases isQuiet
      · rw [if_neg isCycle]
        exact (and_iff_right isCycle).symm

namespace Program.NamesApart

variable {program : Program} (names : program.NamesApart)

include names

theorem quiet_memberFindings :
    Quiet program.memberFindings ↔
      ∀ declaration ∈ program.structs, ∀ region ∈ declaration.regions,
        program.ClearRegion region := by
  rw [memberFindings, StructDecl.quiet_checkFindingsOf names, snd_namedStructs]

theorem quiet_cycleFindings :
    Quiet program.cycleFindings ↔
      ∀ name, ¬ Relation.TransGen program.IsPartOf name name := by
  rw [cycleFindings, StructLang.quiet_cycleFindings]
  constructor
  · intro noCycle name onCycle
    obtain ⟨part, -, declaration, isThere, isName, -⟩ := Relation.TransGen.tail'_iff.mp onCycle
    have isKnown : name ∈ (StructDecl.places program.namedStructs).map Prod.fst := by
      rw [StructDecl.fst_places, fst_namedStructs, taken_structNaming names.structs, ← isName]
      exact List.mem_map_of_mem isThere
    obtain ⟨place, isPlace, rfl⟩ := List.mem_map.mp isKnown
    exact noCycle place isPlace ((names.distinct.isAncestor_iff place.1).mpr onCycle)
  · intro noCycle place _ isFound
    exact noCycle place.1 ((names.distinct.isAncestor_iff place.1).mp isFound)

end Program.NamesApart

end StructLang
