import StructLang.Proofs.Check.Bodies
import StructLang.Proofs.Check.Cycles
import StructLang.Proofs.Check.Nodes

/-!
# Where findings are made

Every finding is made at the node it is about or below the declaration that is looked at. So the
findings about one node are found in one place, and what is found elsewhere does not matter to it.
-/

namespace StructLang

namespace Finding

/-- A finding that a declaration makes, at a node of which something holds: a complaint of certain
kinds about one name, a made-up name or something for the containment graph. -/
def DeclaresAt (kinds : List DiagnosticKind) (isAt : Address → Prop) : Finding → Prop
  | reported report =>
      report.diagnostic.kind ∈ kinds ∧ report.diagnostic.names.length = 1 ∧
        ∃ address, report.address? = some address ∧ isAt address
  | renamed address _ => isAt address
  | containing _ | contained .. => True
  | typed .. | resultLost _ => False

variable {kinds : List DiagnosticKind} {isAt isAtToo : Address → Prop} {findings : List Finding}

theorem DeclaresAt.mono
    {finding : Finding} (declares : finding.DeclaresAt kinds isAt)
    (weaker : ∀ address, isAt address → isAtToo address) :
    finding.DeclaresAt kinds isAtToo := by
  cases finding with
  | reported report =>
      obtain ⟨isKind, hasName, address, isAddress, isThere⟩ := declares
      exact ⟨isKind, hasName, address, isAddress, weaker address isThere⟩
  | renamed address name => exact weaker address declares
  | containing | contained => trivial
  | typed | resultLost => exact declares

theorem DeclaresAt.of_subset
    {kindsToo : List DiagnosticKind} {finding : Finding}
    (declares : finding.DeclaresAt kinds isAt) (subset : kinds ⊆ kindsToo) :
    finding.DeclaresAt kindsToo isAt := by
  cases finding with
  | reported report => exact ⟨subset declares.1, declares.2⟩
  | renamed => exact declares
  | containing | contained => trivial
  | typed | resultLost => exact declares

theorem declaresAt_complaint
    {kind : DiagnosticKind} {address : Address} {position : Position} {name : String}
    (isKind : kind ∈ kinds) (isThere : isAt address) :
    (complaint kind address position [name]).DeclaresAt kinds isAt :=
  ⟨isKind, rfl, address, rfl, isThere⟩

theorem filterMap_lost?_of_declaresAt
    (declare : ∀ finding ∈ findings, finding.DeclaresAt kinds isAt) :
    findings.filterMap lost? = [] := by
  refine List.filterMap_eq_nil_iff.mpr fun finding member => ?_
  have declares := declare finding member
  cases finding <;> first | rfl | exact declares.elim

end Finding

/-! ## Declarations -/

section Declarations

variable {entries : List Entry} {container : String} {here : Region} {naming : Naming}
  {address : Address} {index : Nat}

theorem VariableDecl.declaresAt_findings
    (declaration : VariableDecl) :
    ∀ finding ∈ declaration.findings entries here address,
      finding.DeclaresAt VariableDecl.faults (· = address) := by
  intro finding isFound
  obtain ⟨kind, isKind, rfl⟩ := exists_of_mem_findings isFound
  exact Finding.declaresAt_complaint isKind rfl

/-- Something that findings at declarations have by the nodes of the declarations: a variable needs
no other node, a made-up name only that of its accessor, and more nodes change nothing. -/
structure Finding.ByNodes (about : List Node → Finding → Prop) : Prop where
  mono {nodes nodesToo : List Node} {finding : Finding} :
    about nodes finding → nodes ⊆ nodesToo → about nodesToo finding
  findings {entries : List Entry} {here : Region} {address : Address}
    (declaration : VariableDecl) :
    ∀ finding ∈ declaration.findings entries here address, about [declaration.node address] finding
  contained (part container : String) : about [] (.contained part container)
  renamed (node : Node) (name : String) :
    node.kind.isDeclaration → about [node] (.renamed node.address name)

namespace Finding.ByNodes

variable {about : List Node → Finding → Prop} (byNodes : ByNodes about)

include byNodes

theorem findingsOf
    (declarations : List VariableDecl) :
    ∀ finding ∈ VariableDecl.findingsOf entries here address index declarations,
      about (VariableDecl.nodesOf address index declarations) finding := by
  induction declarations generalizing here index with
  | nil => exact List.forall_mem_nil _
  | cons head tail inductionHypothesis =>
      refine List.forall_mem_append.mpr ⟨fun finding member => ?_, fun finding member => ?_⟩
      · exact byNodes.mono (byNodes.findings head finding member) (by simp [VariableDecl.nodesOf])
      · exact byNodes.mono (inductionHypothesis finding member) (List.subset_cons_self _ _)

theorem fieldFindings
    (field : VariableDecl) :
    ∀ finding ∈ field.fieldFindings entries container here address,
      about [field.node address] finding := by
  refine List.forall_mem_append.mpr ⟨?_, byNodes.findings field⟩
  split
  · exact List.forall_mem_singleton.mpr
      (byNodes.mono (byNodes.contained _ _) (List.nil_subset _))
  · exact List.forall_mem_nil _

theorem fieldFindingsOf
    (fields : List VariableDecl) :
    ∀ finding ∈ VariableDecl.fieldFindingsOf entries container here address index fields,
      about (VariableDecl.nodesOf address index fields) finding := by
  induction fields generalizing here index with
  | nil => exact List.forall_mem_nil _
  | cons head tail inductionHypothesis =>
      refine List.forall_mem_append.mpr ⟨fun finding member => ?_, fun finding member => ?_⟩
      · exact byNodes.mono (byNodes.fieldFindings head finding member)
          (by simp [VariableDecl.nodesOf])
      · exact byNodes.mono (inductionHypothesis finding member) (List.subset_cons_self _ _)

theorem declareFindings
    (member : Stmt) :
    ∀ finding ∈ member.declareFindings entries container here naming address,
      about (member.nodes address) finding := by
  cases member with
  | declare declared =>
      exact fun finding member =>
        byNodes.mono (byNodes.fieldFindingsOf declared finding member) (List.subset_cons_self _ _)
  | accessor name type parameters field setBody getBody position =>
      refine List.forall_mem_append.mpr ⟨fun finding member => ?_, ?_⟩
      · exact byNodes.mono (byNodes.fieldFindings field finding member) (by simp [Stmt.nodes])
      · split
        · refine List.forall_mem_singleton.mpr
            (byNodes.mono (byNodes.renamed ⟨address, .accessorDecl, name, position⟩ _ rfl) ?_)
          exact List.cons_subset_cons _ (List.nil_subset _)
        · exact List.forall_mem_nil _
  | _ => exact List.forall_mem_nil _

theorem declareFindingsOf
    (members : List Stmt) :
    ∀ finding ∈ Stmt.declareFindingsOf entries container here naming address index members,
      about (Stmt.nodesOf address index members) finding := by
  induction members generalizing here naming index with
  | nil => exact List.forall_mem_nil _
  | cons head tail inductionHypothesis =>
      refine List.forall_mem_append.mpr ⟨fun finding member => ?_, fun finding member => ?_⟩
      · exact byNodes.mono (byNodes.declareFindings head finding member)
          (List.subset_append_left _ _)
      · exact byNodes.mono (inductionHypothesis finding member) (List.subset_append_right _ _)

theorem bindFindings
    (member : Stmt) :
    ∀ finding ∈ member.bindFindings entries address, about (member.nodes address) finding := by
  cases member with
  | accessor name type parameters =>
      intro finding member
      refine byNodes.mono (byNodes.findingsOf parameters finding member) fun node isThere => ?_
      simp [Stmt.nodes, isThere]
  | _ => exact List.forall_mem_nil _

theorem bindFindingsOf
    (members : List Stmt) :
    ∀ finding ∈ Stmt.bindFindingsOf entries address index members,
      about (Stmt.nodesOf address index members) finding := by
  induction members generalizing index with
  | nil => exact List.forall_mem_nil _
  | cons head tail inductionHypothesis =>
      refine List.forall_mem_append.mpr ⟨fun finding member => ?_, fun finding member => ?_⟩
      · exact byNodes.mono (byNodes.bindFindings head finding member)
          (List.subset_append_left _ _)
      · exact byNodes.mono (inductionHypothesis finding member) (List.subset_append_right _ _)

theorem checkFindings
    {made : Nat} (declaration : StructDecl) :
    ∀ finding ∈ declaration.checkFindings entries container made address,
      about (declaration.nodes address) finding := by
  have areNodes : Stmt.nodesOf (0 :: address) 0 declaration.members ⊆
      declaration.nodes address := fun _ isThere => .tail _ (.tail _ isThere)
  exact List.forall_mem_append.mpr
    ⟨fun finding member => byNodes.mono (byNodes.declareFindingsOf _ finding member) areNodes,
      fun finding member => byNodes.mono (byNodes.bindFindingsOf _ finding member) areNodes⟩

end Finding.ByNodes

/-- What is found at declarations is found at one of their nodes. -/
theorem Finding.byNodes_declaresAt :
    ByNodes fun nodes finding =>
      finding.DeclaresAt VariableDecl.faults (Node.DeclaredIn nodes) where
  mono declares subset := declares.mono fun _ isDeclared => isDeclared.mono subset
  findings declaration finding member :=
    (declaration.declaresAt_findings finding member).mono fun _ same =>
      ⟨_, List.mem_cons_self, same.symm, rfl⟩
  contained _ _ := trivial
  renamed node _ isDeclaration := ⟨node, List.mem_cons_self, rfl, isDeclaration⟩

/-- All that is found at the members of structs is found at declarations inside the structs. -/
theorem StructDecl.declaresAt_checkFindingsOf
    {made : Nat} (structs : List (String × StructDecl)) :
    ∀ finding ∈ checkFindingsOf entries made index structs,
      finding.DeclaresAt VariableDecl.faults fun place =>
        ∃ number, ∃ pair : String × StructDecl, structs[number]? = some pair ∧ Node.DeclaredIn
          (pair.2.nodes (Program.structAddress (index + number))) place := by
  induction structs generalizing made index with
  | nil => exact List.forall_mem_nil _
  | cons head tail inductionHypothesis =>
      refine List.forall_mem_append.mpr ⟨fun finding member => ?_, fun finding member => ?_⟩
      · exact (Finding.byNodes_declaresAt.checkFindings head.2 finding member).mono
          fun _ isDeclared => ⟨0, head, rfl, isDeclared⟩
      · refine (inductionHypothesis finding member).mono ?_
        rintro _ ⟨number, pair, isThere, isDeclared⟩
        rw [Nat.add_right_comm] at isDeclared
        exact ⟨number + 1, pair, isThere, isDeclared⟩

theorem declaresAt_namingFindings
    {kind : DiagnosticKind} {position : Position} {name : String} :
    ∀ finding ∈ namingFindings kind address position naming name,
      finding.DeclaresAt [kind] (· = address) := by
  rw [namingFindings]
  split <;> simp [Finding.complaint, Finding.DeclaresAt]

theorem StructDecl.declaresAt_declareFindings
    (structs : List StructDecl) :
    ∀ finding ∈ declareFindings naming index structs,
      finding.DeclaresAt [.duplicateStruct] fun place =>
        ∃ number < structs.length, place = Program.structAddress (index + number) := by
  induction structs generalizing naming index with
  | nil => exact List.forall_mem_nil _
  | cons head tail inductionHypothesis =>
      refine List.forall_mem_append.mpr ⟨fun finding member => ?_,
        List.forall_mem_cons.mpr ⟨trivial, fun finding member => ?_⟩⟩
      · exact (declaresAt_namingFindings finding member).mono fun _ same =>
          ⟨0, Nat.succ_pos _, same⟩
      · refine (inductionHypothesis finding member).mono ?_
        rintro _ ⟨number, isBelow, rfl⟩
        exact ⟨number + 1, Nat.succ_lt_succ isBelow, by rw [Nat.add_right_comm]; rfl⟩

theorem FunctionDecl.declaresAt_declareFindings
    {structs : List String} (functions : List FunctionDecl) :
    ∀ finding ∈ declareFindings structs naming index functions,
      finding.DeclaresAt [.functionStructConflict, .duplicateFunction] fun place =>
        ∃ number < functions.length, place = Program.functionAddress (index + number) := by
  induction functions generalizing naming index with
  | nil => exact List.forall_mem_nil _
  | cons head tail inductionHypothesis =>
      have isHead : ∃ number < (head :: tail).length,
          Program.functionAddress index = Program.functionAddress (index + number) :=
        ⟨0, Nat.succ_pos _, rfl⟩
      refine List.forall_mem_append.mpr ⟨?_,
        List.forall_mem_append.mpr ⟨fun finding member => ?_, fun finding member => ?_⟩⟩
      · split
        · exact List.forall_mem_singleton.mpr
            (Finding.declaresAt_complaint (by simp) isHead)
        · exact List.forall_mem_nil _
      · have declares := declaresAt_namingFindings finding member
        exact (declares.of_subset (List.subset_cons_self _ _)).mono fun _ same =>
          same ▸ isHead
      · refine (inductionHypothesis finding member).mono ?_
        rintro _ ⟨number, isBelow, rfl⟩
        exact ⟨number + 1, Nat.succ_lt_succ isBelow, by rw [Nat.add_right_comm]; rfl⟩

theorem declaresAt_cycleFindings
    {graph : Containment} (structs : List (String × StructDecl)) :
    ∀ finding ∈ cycleFindings graph (StructDecl.places structs),
      finding.DeclaresAt [.cyclicDependency] fun place =>
        ∃ number < structs.length, place = Program.structAddress number := by
  intro finding member
  obtain ⟨place, isThere, rfl⟩ := List.mem_map.mp member
  obtain ⟨number, isBelow, rfl⟩ := List.mem_mapIdx.mp (List.mem_filter.mp isThere).1
  exact Finding.declaresAt_complaint (List.mem_singleton_self _) ⟨number, isBelow, rfl⟩

end Declarations

end StructLang
