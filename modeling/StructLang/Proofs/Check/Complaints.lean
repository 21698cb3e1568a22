import StructLang.Proofs.Check.Tables

/-!
# Complaints about nodes

All that a check says about an address, it says about a node of the program that has it: about a
declaration, or about a node that was visited. A node that is no declaration is spoken of in its
own visit only, and so there is one complaint about it at the most.
-/

namespace StructLang

/-! ## Findings are about nodes -/

theorem FunctionDecl.labels_visits
    (signature : Signature) (address : Address) (declaration : FunctionDecl) :
    (declaration.visits signature address).map Visit.label ⊆
      (declaration.nodes address).map Node.label := by
  have ofBody := declaration.body.labels_visits signature [] [[]] (1 :: address)
  have ofParameters := VariableDecl.labels_visitsOf signature declaration.body.declares [[]]
    (0 :: address) 0 declaration.parameters
  simp only [visits, nodes, List.map_append, List.map_cons]
  grind

namespace Program

variable {program : Program}

theorem nodes_struct
    {index : Nat} {declaration : StructDecl}
    (isThere : program.structs[index]? = some declaration) :
    declaration.nodes (structAddress index) ⊆ program.nodes := by
  obtain ⟨isBelow, rfl⟩ := List.getElem?_eq_some_iff.mp isThere
  intro node isNode
  have isListed : node ∈ (program.structs.mapIdx fun index declaration =>
      declaration.nodes (structAddress index)).flatten :=
    List.mem_flatten.mpr ⟨_, List.mem_mapIdx.mpr ⟨index, isBelow, rfl⟩, isNode⟩
  exact .tail _ (List.mem_append_left _ (List.mem_append_left _ isListed))

theorem nodes_function
    {index : Nat} {declaration : FunctionDecl}
    (isThere : program.functions[index]? = some declaration) :
    declaration.nodes (functionAddress index) ⊆ program.nodes := by
  obtain ⟨isBelow, rfl⟩ := List.getElem?_eq_some_iff.mp isThere
  intro node isNode
  have isListed : node ∈ (program.functions.mapIdx fun index declaration =>
      declaration.nodes (functionAddress index)).flatten :=
    List.mem_flatten.mpr ⟨_, List.mem_mapIdx.mpr ⟨index, isBelow, rfl⟩, isNode⟩
  exact .tail _ (List.mem_append_left _ (List.mem_append_right _ isListed))

theorem nodes_main
    {declaration : MainDecl} (isThere : program.main? = some declaration) :
    declaration.nodes mainAddress ⊆ program.nodes := by
  rw [nodes, isThere]
  exact fun node isNode => .tail _ (List.mem_append_right _ isNode)

/-- Every visit is of a node of the program. -/
theorem label_of_mem_visits
    {visit : Visit} (member : visit ∈ program.visits) :
    ∃ node ∈ program.nodes, node.label = visit.label := by
  rcases List.mem_append.mp member with ofFunction | ofMain
  · obtain ⟨number, declaration, isThere, isVisit⟩ := FunctionDecl.mem_visitsOf.mp ofFunction
    rw [Nat.zero_add] at isVisit
    have isLabel := declaration.labels_visits _ _ (List.mem_map_of_mem isVisit)
    obtain ⟨node, isNode, same⟩ := List.mem_map.mp isLabel
    exact ⟨node, nodes_function isThere isNode, same⟩
  · rw [mainVisits] at ofMain
    cases isThere : program.main? with
    | none => simp [isThere] at ofMain
    | some declaration =>
        rw [isThere] at ofMain
        have isLabel := declaration.body.labels_visits program.mainSignature [] []
          (0 :: mainAddress) (List.mem_map_of_mem ofMain)
        obtain ⟨node, isNode, same⟩ := List.mem_map.mp isLabel
        exact ⟨node, nodes_main isThere (.tail _ isNode), same⟩

theorem declaredIn_struct
    {index : Nat} (isBelow : index < program.structs.length) :
    Node.DeclaredIn program.nodes (structAddress index) :=
  ⟨_, nodes_struct (List.getElem?_eq_getElem isBelow) List.mem_cons_self, rfl, rfl⟩

theorem declaredIn_function
    {index : Nat} (isBelow : index < program.functions.length) :
    Node.DeclaredIn program.nodes (functionAddress index) :=
  ⟨_, nodes_function (List.getElem?_eq_getElem isBelow) List.mem_cons_self, rfl, rfl⟩

/-- What a check finds about an address it finds about a declaration there or in a visit. -/
theorem declared_or_visited_of_about?
    {finding : Finding} {address : Address} (isFound : finding ∈ program.findings)
    (isAbout : finding.about? = some address) :
    Node.DeclaredIn program.nodes address ∨
      ∃ visit ∈ program.visits, visit.address = address := by
  rw [findings, List.mem_append, List.mem_append, List.mem_append, declareFindings,
    List.mem_append] at isFound
  rcases isFound with (ofStruct | ofFunction) | ofMember | ofCycle | inBody
  · have declares := StructDecl.declaresAt_declareFindings program.structs finding ofStruct
    obtain ⟨number, isBelow, rfl⟩ := declares.isAt_of_about? isAbout
    rw [Nat.zero_add]
    exact Or.inl (declaredIn_struct isBelow)
  · have declares := FunctionDecl.declaresAt_declareFindings program.functions finding ofFunction
    obtain ⟨number, isBelow, rfl⟩ := declares.isAt_of_about? isAbout
    rw [Nat.zero_add]
    exact Or.inl (declaredIn_function isBelow)
  · have declares := StructDecl.declaresAt_checkFindingsOf program.namedStructs finding ofMember
    obtain ⟨number, pair, isPair, isDeclared⟩ := declares.isAt_of_about? isAbout
    rw [Nat.zero_add] at isDeclared
    exact Or.inl (isDeclared.mono (nodes_struct (mem_namedStructs isPair).2))
  · have declares := declaresAt_cycleFindings program.namedStructs finding ofCycle
    obtain ⟨number, isBelow, rfl⟩ := declares.isAt_of_about? isAbout
    have isThere := (mem_namedStructs (List.getElem?_eq_getElem isBelow)).2
    exact Or.inl (declaredIn_struct (List.getElem?_eq_some_iff.mp isThere).1)
  · rcases mem_bodyFindings inBody with ⟨visit, member, isOwn⟩ | atResult
    · rw [visit.about?_findings finding isOwn, Option.some.injEq] at isAbout
      exact Or.inr ⟨visit, member, isAbout⟩
    · obtain ⟨number, declaration, isThere, isResult⟩ := atResult
      obtain rfl := declaration.about?_resultFindings finding isResult isAbout
      exact Or.inl (declaredIn_function (List.getElem?_eq_some_iff.mp isThere).1)

end Program

/-! ## One complaint at the most -/

namespace Finding

/-- The reports among some findings. -/
abbrev reportsOf (findings : List Finding) : List Report := findings.filterMap report?

theorem length_reportsOf_settled
    (address : Address) (position : Position) (verdict : Verdict) :
    (reportsOf (settled address position verdict)).length ≤ 1 := by
  cases verdict with
  | type => exact Nat.zero_le 1
  | fault => exact Nat.le_refl 1

end Finding

open Finding

/-- A visit of anything but a declaration complains once at the most. -/
theorem Visit.length_reportsOf_findings
    {visit : Visit} (notDeclaration : visit.subject.kind.isDeclaration = false) :
    (reportsOf visit.findings).length ≤ 1 := by
  obtain ⟨signature, regions, address, subject⟩ := visit
  cases subject with
  | expression expression => exact length_reportsOf_settled _ _ _
  | statement statement =>
      dsimp only [findings]
      obtain ⟨_, _, _, rfl⟩ | isNothing | ⟨kind, isOne⟩ :=
        statement.ownFindings_cases (signature.around regions) address
      · exact length_reportsOf_settled _ _ _
      · exact isNothing ▸ Nat.zero_le 1
      · exact isOne ▸ Nat.le_refl 1
  | declaration declaration => cases notDeclaration

namespace Program

variable {program : Program} {node : Node}

/-- About a node that is no declaration there is one complaint at the most. -/
theorem length_reportsOf_allAbout
    (isNode : node ∈ program.nodes) (notDeclaration : node.kind.isDeclaration = false) :
    (reportsOf (allAbout node.address program.findings)).length ≤ 1 := by
  have noDeclaration : ¬ Node.DeclaredIn program.nodes node.address := by
    rintro ⟨other, isOther, same, isDeclaration⟩
    obtain rfl := program.apart_nodes.eq_of_same isOther isNode same
    exact Bool.noConfusion (notDeclaration.symm.trans isDeclaration)
  by_cases isVisited : ∃ visit ∈ program.visits, visit.address = node.address
  · obtain ⟨visit, member, same⟩ := isVisited
    obtain ⟨other, isOther, isLabel⟩ := label_of_mem_visits member
    obtain ⟨isPlace, isKind, -⟩ := Node.eq_of_label isLabel
    obtain rfl := program.apart_nodes.eq_of_same isOther isNode (isPlace.trans same)
    rw [← same, allAbout_findings member]
    exact Visit.length_reportsOf_findings (isKind ▸ notDeclaration)
  · have nothing : allAbout node.address program.findings = [] := by
      refine allAbout_eq_nil fun finding isFound isAbout => ?_
      rcases declared_or_visited_of_about? isFound isAbout with isDeclared | visited
      · exact noDeclaration isDeclared
      · exact isVisited visited
    rw [nothing]
    exact Nat.zero_le 1

end Program

end StructLang
