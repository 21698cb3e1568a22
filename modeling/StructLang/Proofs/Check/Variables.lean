import StructLang.Proofs.Check.MemberVisits

/-!
# Variables and their scopes

Every variable that a program declares is declared in one scope: that of a function, of the main
body, of a branch, of a struct or of an accessor. What was declared in the scope before counts. Only
what stands in the blocks of accessors is declared nowhere, for these are not checked.
-/

namespace StructLang

open Finding

namespace Program

/-- A variable is declared at an address, in a scope that other variables were declared in before.
The parameters of a function come after all that its body declares outside of branches, and the
fields of a struct come one member after the other. -/
inductive Declares (program : Program) : Address → Region → VariableDecl → Prop
  | inBody {number index : Nat} {address : Address} {here : Region} {outer : List Region}
      {declared : Region} {position : Position} {declaration : VariableDecl}
      (stands : program.Stands number address here outer (.declare declared position))
      (isThere : declared[index]? = some declaration) :
      Declares program (index :: address) (here ++ declared.take index) declaration
  | parameter {number index : Nat} {function : FunctionDecl} {declaration : VariableDecl}
      (isFunction : program.functions[number]? = some function)
      (isThere : function.parameters[index]? = some declaration) :
      Declares program (index :: 0 :: functionAddress number)
        (function.body.declares ++ function.parameters.take index) declaration
  | field {number place index : Nat} {owner : StructDecl} {fields : Region}
      {position : Position} {declaration : VariableDecl}
      (isStruct : program.structs[number]? = some owner)
      (isMember : owner.members[place]? = some (.declare fields position))
      (isThere : fields[index]? = some declaration) :
      Declares program (index :: place :: 0 :: structAddress number)
        ((owner.members.take place).flatMap Stmt.fields ++ fields.take index) declaration
  | accessorField {number place : Nat} {owner : StructDecl} {name : String} {type : Ty}
      {parameters : Region} {declaration : VariableDecl} {setBody getBody : Stmt}
      {position : Position}
      (isStruct : program.structs[number]? = some owner)
      (isMember : owner.members[place]? =
        some (.accessor name type parameters declaration setBody getBody position)) :
      Declares program (1 :: place :: 0 :: structAddress number)
        ((owner.members.take place).flatMap Stmt.fields) declaration
  | accessorParameter {number place index : Nat} {owner : StructDecl} {name : String} {type : Ty}
      {parameters : Region} {field declaration : VariableDecl} {setBody getBody : Stmt}
      {position : Position}
      (isStruct : program.structs[number]? = some owner)
      (isMember : owner.members[place]? =
        some (.accessor name type parameters field setBody getBody position))
      (isThere : parameters[index]? = some declaration) :
      Declares program (index :: 0 :: place :: 0 :: structAddress number)
        (parameters.take index) declaration

/-- An address in one of the two blocks of an accessor. -/
def InAccessor (program : Program) (address : Address) : Prop :=
  ∃ (number place : Nat) (owner : StructDecl) (name : String) (type : Ty) (parameters : Region)
      (field : VariableDecl) (setBody getBody : Stmt) (position : Position),
    program.structs[number]? = some owner ∧
      owner.members[place]? =
        some (.accessor name type parameters field setBody getBody position) ∧
      ∃ side, (side = 2 ∨ side = 3) ∧ side :: place :: 0 :: structAddress number <:+ address

variable {program : Program} {address : Address} {earlier : Region} {declaration : VariableDecl}

/-! ## All of them are visited -/

/-- A variable is visited with what its scope was given before. -/
theorem Declares.exists_visit
    (declares : program.Declares address earlier declaration) :
    ∃ (signature : Signature) (outer : List Region), signature.entries = program.entries ∧
      (⟨signature, earlier :: outer, address, .declaration declaration⟩ ∈ program.visits ∨
        ⟨signature, earlier :: outer, address, .declaration declaration⟩ ∈
          program.memberVisits) := by
  have isVisited {signature : Signature} {here : Region} {outer : List Region} {place : Address}
      {index : Nat} {declarations : Region} (isThere : declarations[index]? = some declaration) :
      ⟨signature, (here ++ declarations.take index) :: outer, index :: place,
          .declaration declaration⟩ ∈
        VariableDecl.visitsOf signature here outer place 0 declarations :=
    VariableDecl.mem_visitsOf.mpr ⟨index, declaration, isThere, by rw [Nat.zero_add]⟩
  cases declares with
  | inBody stands isThere =>
      exact ⟨_, _, rfl, Or.inl (stands.visits_subset (List.mem_append_left _ (isVisited isThere)))⟩
  | @parameter number _ _ _ isFunction isThere =>
      refine ⟨program.signatureFor number, [[]], rfl, Or.inl (List.mem_append_left _
        (FunctionDecl.mem_visitsOf.mpr ⟨number, _, isFunction, ?_⟩))⟩
      rw [Nat.zero_add]
      exact List.mem_append_right _ (isVisited isThere)
  | field isStruct isMember isThere =>
      exact ⟨_, _, rfl, Or.inr (mem_memberVisits.mpr
        ⟨_, _, _, _, isStruct, isMember, Or.inl (isVisited isThere)⟩)⟩
  | accessorField isStruct isMember =>
      exact ⟨_, _, rfl, Or.inr (mem_memberVisits.mpr
        ⟨_, _, _, _, isStruct, isMember, Or.inl List.mem_cons_self⟩)⟩
  | accessorParameter isStruct isMember isThere =>
      exact ⟨_, _, rfl, Or.inr (mem_memberVisits.mpr
        ⟨_, _, _, _, isStruct, isMember, Or.inr (isVisited isThere)⟩)⟩

/-- What is visited at members are variables that are declared there. -/
theorem exists_declares_of_mem_memberVisits
    {visit : Visit} (isVisit : visit ∈ program.memberVisits) :
    ∃ earlier declaration, program.Declares visit.address earlier declaration := by
  obtain ⟨number, place, owner, member, isStruct, isMember, ofField | ofParameter⟩ :=
    mem_memberVisits.mp isVisit
  · cases member with
    | declare fields =>
        obtain ⟨index, declaration, isThere, rfl⟩ := VariableDecl.mem_visitsOf.mp ofField
        rw [Nat.zero_add]
        exact ⟨_, _, .field isStruct isMember isThere⟩
    | accessor =>
        obtain rfl := List.mem_singleton.mp ofField
        exact ⟨_, _, .accessorField isStruct isMember⟩
    | _ => cases ofField
  · cases member with
    | accessor name type parameters =>
        obtain ⟨index, declaration, isThere, rfl⟩ := VariableDecl.mem_visitsOf.mp ofParameter
        rw [Nat.zero_add]
        exact ⟨_, _, .accessorParameter isStruct isMember isThere⟩
    | _ => cases ofParameter

/-- The blocks of accessors are not visited. -/
theorem InAccessor.notMem_memberVisits
    {visit : Visit} (inAccessor : program.InAccessor visit.address) :
    visit ∉ program.memberVisits := by
  obtain ⟨number, place, owner, name, type, parameters, field, setBody, getBody, position, isStruct,
    isMember, side, isSide, isBelow⟩ := inAccessor
  intro isVisit
  obtain ⟨otherNumber, otherPlace, other, member, isOther, isMemberToo, ofField | ofParameter⟩ :=
    mem_memberVisits.mp isVisit
  · cases member with
    | declare fields =>
        obtain ⟨index, declaration, -, rfl⟩ := VariableDecl.mem_visitsOf.mp ofField
        have same := isBelow.eq_of_length rfl
        simp only [structAddress, List.cons.injEq, and_true] at same
        obtain ⟨-, rfl, -, rfl⟩ := same
        obtain rfl := Option.some.inj (isStruct.symm.trans isOther)
        cases isMember.symm.trans isMemberToo
    | accessor =>
        obtain rfl := List.mem_singleton.mp ofField
        have same := (List.cons.inj (isBelow.eq_of_length rfl)).1
        omega
    | _ => cases ofField
  · cases member with
    | accessor name type parameters =>
        obtain ⟨index, declaration, -, rfl⟩ := VariableDecl.mem_visitsOf.mp ofParameter
        rcases List.suffix_cons_iff.mp isBelow with same | isBelow
        · exact absurd (congrArg List.length same) (by simp [structAddress])
        · have same := (List.cons.inj (isBelow.eq_of_length rfl)).1
          omega
    | _ => cases ofParameter

theorem InAccessor.isBelow
    (inAccessor : program.InAccessor address) :
    ∃ number, 0 :: structAddress number <:+ address := by
  obtain ⟨number, place, -, -, -, -, -, -, -, -, -, -, side, -, isBelow⟩ := inAccessor
  exact ⟨number, (List.suffix_append [side, place] (0 :: structAddress number)).trans isBelow⟩

/-- Nothing is found about what stands in the block of an accessor. -/
theorem InAccessor.allAbout_findings
    (inAccessor : program.InAccessor address) : allAbout address program.findings = [] := by
  obtain ⟨number, isBelow⟩ := inAccessor.isBelow
  rw [allAbout_findings_below isBelow]
  refine allAbout_eq_nil fun finding isFound isAbout => ?_
  obtain ⟨visit, isVisit, rfl⟩ := Visit.exists_of_about? isFound isAbout
  exact inAccessor.notMem_memberVisits isVisit

/-- What is found about a variable depends on the names of structs and functions and on what its
scope was given before. -/
theorem Declares.allAbout_findings
    (declares : program.Declares address earlier declaration) :
    allAbout address program.findings =
      declaration.findings program.entries earlier address := by
  obtain ⟨signature, outer, areEntries, inBody | inStruct⟩ := declares.exists_visit
  · rw [← areEntries]
    exact Program.allAbout_findings inBody
  · rw [← areEntries]
    exact allAbout_findings_of_member inStruct

/-! ## All nodes of variables are theirs -/

/-- What stands in a body is part of the program. -/
theorem Stands.nodes_subset
    {number : Nat} {here : Region} {outer : List Region} {statement : Stmt}
    (stands : program.Stands number address here outer statement) :
    statement.nodes address ⊆ program.nodes := by
  induction stands with
  | function isThere =>
      exact fun node isNode =>
        nodes_function isThere (.tail _ (List.mem_append_right _ isNode))
  | main isThere => exact fun node isNode => nodes_main isThere (.tail _ isNode)
  | ofBlock _ isThere inductionHypothesis =>
      intro node isNode
      refine inductionHypothesis (.tail _ (Stmt.mem_nodesOf.mpr ⟨_, _, isThere, ?_⟩))
      rwa [Nat.zero_add]
  | ofThen _ inductionHypothesis =>
      exact fun node isNode => inductionHypothesis
        (.tail _ (List.mem_append_left _ (List.mem_append_right _ isNode)))
  | ofElse _ inductionHypothesis | ofLoop _ inductionHypothesis =>
      exact fun node isNode => inductionHypothesis (.tail _ (List.mem_append_right _ isNode))

/-- A member of a struct is part of the program. -/
theorem nodes_member
    {number place : Nat} {owner : StructDecl} {member : Stmt}
    (isStruct : program.structs[number]? = some owner)
    (isMember : owner.members[place]? = some member) :
    member.nodes (place :: 0 :: structAddress number) ⊆ program.nodes := by
  intro node isNode
  refine nodes_struct isStruct (.tail _ (.tail _ ?_))
  refine Stmt.mem_nodesOf.mpr ⟨place, member, isMember, ?_⟩
  rwa [Nat.zero_add]

/-- A variable that is declared is part of the program. -/
theorem Declares.mem_nodes
    (declares : program.Declares address earlier declaration) :
    declaration.node address ∈ program.nodes := by
  have isListed {place : Address} {index : Nat} {declarations : Region}
      (isThere : declarations[index]? = some declaration) :
      declaration.node (index :: place) ∈ VariableDecl.nodesOf place 0 declarations :=
    VariableDecl.mem_nodesOf.mpr ⟨index, declaration, isThere, by rw [Nat.zero_add]⟩
  cases declares with
  | inBody stands isThere => exact stands.nodes_subset (.tail _ (isListed isThere))
  | parameter isFunction isThere =>
      exact nodes_function isFunction (.tail _ (List.mem_append_left _ (isListed isThere)))
  | field isStruct isMember isThere =>
      exact nodes_member isStruct isMember (.tail _ (isListed isThere))
  | accessorField isStruct isMember =>
      exact nodes_member isStruct isMember (by simp [Stmt.nodes])
  | accessorParameter isStruct isMember isThere =>
      exact nodes_member isStruct isMember (by simp [Stmt.nodes, isListed isThere])

/-- A node that stands for a variable. -/
def IsVariable (program : Program) (node : Node) : Prop :=
  ∃ earlier declaration, program.Declares node.address earlier declaration ∧
    node = declaration.node node.address

theorem Declares.isVariable
    (declares : program.Declares address earlier declaration) :
    program.IsVariable (declaration.node address) :=
  ⟨earlier, declaration, declares, rfl⟩

variable {node : Node}

/-- A variable in a body is declared there. -/
theorem Stands.isVariable_of_mem_nodes
    {number : Nat} {here : Region} {outer : List Region} {statement : Stmt}
    (stands : program.Stands number address here outer statement) (written : program.Written)
    (isNode : node ∈ statement.nodes address) (isKind : node.kind = .variableDecl) :
    program.IsVariable node := by
  rcases stands.cases_of_mem_nodes written isNode with
    ⟨inner, hasStmt, isInner⟩ | ⟨place, near, far, declared, position, standsInner, isThere⟩ |
      ⟨regions, sees⟩
  · rw [isKind] at isInner
    have isWritten := hasStmt.written written
    cases inner with
    | stray => exact isWritten.elim nofun False.elim
    | _ => cases isInner
  · obtain ⟨index, declaration, isDeclared, rfl⟩ := VariableDecl.mem_nodesOf.mp isThere
    rw [Nat.zero_add]
    exact (Declares.inBody standsInner isDeclared).isVariable
  · have isExpression := sees.isExpression written
    rw [isKind] at isExpression
    cases isExpression

/-- A variable of a struct is declared there, or it stands in the block of an accessor. -/
theorem isVariable_of_mem_structNodes
    (written : program.Written) {number : Nat} {owner : StructDecl}
    (isStruct : program.structs[number]? = some owner)
    (isNode : node ∈ owner.nodes (structAddress number)) (isKind : node.kind = .variableDecl) :
    program.IsVariable node ∨ program.InAccessor node.address := by
  have isWritten := written.structs owner (List.mem_of_getElem? isStruct)
  rcases List.mem_cons.mp isNode with rfl | isBelow
  · cases isKind
  rcases List.mem_cons.mp isBelow with rfl | isBelow
  · cases isKind
  obtain ⟨place, member, isMember, isPart⟩ := Stmt.mem_nodesOf.mp isBelow
  have memberWritten := isWritten.members member (List.mem_of_getElem? isMember)
  rw [Nat.zero_add] at isPart
  cases member with
  | declare fields position =>
      rcases List.mem_cons.mp isPart with rfl | isField
      · cases isKind
      · obtain ⟨index, declaration, isThere, rfl⟩ := VariableDecl.mem_nodesOf.mp isField
        rw [Nat.zero_add]
        exact Or.inl (Declares.field isStruct isMember isThere).isVariable
  | accessor name type parameters field setBody getBody position =>
      have inBlock {side : Nat} (isSide : side = 2 ∨ side = 3)
          (isBelow : side :: place :: 0 :: structAddress number <:+ node.address) :
          program.InAccessor node.address :=
        ⟨number, place, owner, name, type, parameters, field, setBody, getBody, position, isStruct,
          isMember, side, isSide, isBelow⟩
      rcases List.mem_cons.mp isPart with rfl | isBelow
      · cases isKind
      rcases List.mem_append.mp isBelow with isBelow | inGet
      · rcases List.mem_append.mp isBelow with isBelow | inSet
        · rcases List.mem_append.mp isBelow with isParameter | isField
          · obtain ⟨index, declaration, isThere, rfl⟩ := VariableDecl.mem_nodesOf.mp isParameter
            rw [Nat.zero_add]
            exact Or.inl (Declares.accessorParameter isStruct isMember isThere).isVariable
          · obtain rfl := List.mem_singleton.mp isField
            exact Or.inl (Declares.accessorField isStruct isMember).isVariable
        · exact Or.inr (inBlock (Or.inl rfl) ((setBody.apart_nodes _).below node inSet))
      · exact Or.inr (inBlock (Or.inr rfl) ((getBody.apart_nodes _).below node inGet))
  | _ => exact memberWritten.elim

/-- All variables of a program are declared in it, but for those in the blocks of accessors. -/
theorem isVariable_or_inAccessor
    (written : program.Written) (isNode : node ∈ program.nodes)
    (isKind : node.kind = .variableDecl) :
    program.IsVariable node ∨ program.InAccessor node.address := by
  rcases cases_of_mem_nodes isNode with rfl | ⟨index, owner, isStruct, inPart⟩ |
    ⟨index, function, isFunction, inPart⟩ | ⟨main, isMain, inPart⟩
  · cases isKind
  · exact isVariable_of_mem_structNodes written isStruct inPart isKind
  · rcases List.mem_cons.mp inPart with rfl | isBelow
    · cases isKind
    rcases List.mem_append.mp isBelow with isParameter | inBody
    · obtain ⟨place, declaration, isThere, rfl⟩ := VariableDecl.mem_nodesOf.mp isParameter
      rw [Nat.zero_add]
      exact Or.inl (Declares.parameter isFunction isThere).isVariable
    · exact Or.inl ((Stands.function isFunction).isVariable_of_mem_nodes written inBody isKind)
  · rcases List.mem_cons.mp inPart with rfl | inBody
    · cases isKind
    · exact Or.inl ((Stands.main isMain).isVariable_of_mem_nodes written inBody isKind)

end Program

end StructLang
