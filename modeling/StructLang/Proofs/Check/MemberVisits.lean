import StructLang.Proofs.Check.Complaints
import StructLang.Proofs.Check.Seen

/-!
# Visits of members

The variables that structs declare are visited, too: the fields of a struct in one region, and the
parameters of each of its accessors in a region of their own. What is found about one of them is
what is found in its visit.
-/

namespace StructLang

open Finding

variable {signature : Signature} {container : String} {here : Region} {naming : Naming}
  {address : Address} {index : Nat}

namespace VariableDecl

/-- A struct that a field contains is about no node. -/
theorem allAbout_fieldFindings
    {entries : List Entry} (place : Address) (field : VariableDecl) :
    allAbout place (field.fieldFindings entries container here address) =
      allAbout place (field.findings entries here address) := by
  rw [fieldFindings, allAbout_append]
  split <;> rfl

theorem allAbout_fieldFindingsOf
    (place : Address) (fields : List VariableDecl) :
    allAbout place (fieldFindingsOf signature.entries container here address index fields) =
      allAbout place
        (Visit.findingsOf (visitsOf signature here [] address index fields)) := by
  rw [findings_visitsOf]
  induction fields generalizing here index with
  | nil => rfl
  | cons head tail inductionHypothesis =>
      rw [fieldFindingsOf, findingsOf, allAbout_append, allAbout_append, inductionHypothesis,
        allAbout_fieldFindings]

/-- A declaration is visited in the region that those before it leave. -/
theorem mem_visitsOf
    {outer : List Region} {visit : Visit} {declarations : List VariableDecl} :
    visit ∈ visitsOf signature here outer address index declarations ↔
      ∃ (number : Nat) (declaration : VariableDecl), declarations[number]? = some declaration ∧
        visit = ⟨signature, (here ++ declarations.take number) :: outer,
          (index + number) :: address, .declaration declaration⟩ := by
  have threaded : visit ∈ visitsOf signature here outer address index declarations ↔ _ :=
    mem_declaring (fun near => visitsOf signature near outer address)
      (fun near place declaration =>
        [Visit.mk signature (near :: outer) (place :: address) (.declaration declaration)])
      (fun declaration => [declaration]) (fun _ _ => List.not_mem_nil)
      (fun _ _ _ _ => by rw [visitsOf, List.mem_cons, List.mem_singleton]) here
  simpa only [List.flatMap_singleton', List.mem_singleton] using threaded

end VariableDecl

/-! ## Members -/

namespace Stmt

/-- The visits of the fields that a member declares. -/
def fieldVisits (signature : Signature) (here : Region) (address : Address) : Stmt → List Visit
  | .declare fields _ => VariableDecl.visitsOf signature here [] address 0 fields
  | .accessor _ _ _ field _ _ _ => VariableDecl.visitsOf signature here [] address 1 [field]
  | _ => []

/-- The visits of the fields that members declare, numbered from an index on. -/
def fieldVisitsOf (signature : Signature) (here : Region) (address : Address) (index : Nat) :
    List Stmt → List Visit
  | [] => []
  | head :: tail =>
      head.fieldVisits signature here (index :: address) ++
        fieldVisitsOf signature (here ++ head.fields) address (index + 1) tail

/-- The visits of the parameters of a member. -/
def parameterVisits (signature : Signature) (address : Address) : Stmt → List Visit
  | .accessor _ _ parameters _ _ _ _ =>
      VariableDecl.visitsOf signature [] [] (0 :: address) 0 parameters
  | _ => []

/-- The visits of the parameters of members, numbered from an index on. -/
def parameterVisitsOf (signature : Signature) (address : Address) (index : Nat) :
    List Stmt → List Visit
  | [] => []
  | head :: tail =>
      head.parameterVisits signature (index :: address) ++
        parameterVisitsOf signature address (index + 1) tail

theorem allAbout_declareFindings
    (place : Address) (member : Stmt) :
    allAbout place (member.declareFindings signature.entries container here naming address) =
      allAbout place (Visit.findingsOf (member.fieldVisits signature here address)) := by
  cases member with
  | declare fields => exact VariableDecl.allAbout_fieldFindingsOf place fields
  | accessor name type parameters field =>
      have noRenaming : allAbout place (if name ∈ naming.taken then
          [Finding.renamed address (suffixed name (naming.made + 1))] else []) = [] := by
        split <;> rfl
      have ofField : allAbout place (VariableDecl.fieldFindingsOf signature.entries container here
          address 1 [field]) = _ := VariableDecl.allAbout_fieldFindingsOf place [field]
      rw [VariableDecl.fieldFindingsOf, VariableDecl.fieldFindingsOf, List.append_nil] at ofField
      rw [declareFindings, allAbout_append, noRenaming, List.append_nil, ofField, fieldVisits]
  | _ => rfl

theorem allAbout_declareFindingsOf
    (place : Address) (members : List Stmt) :
    allAbout place
        (declareFindingsOf signature.entries container here naming address index members) =
      allAbout place
        (Visit.findingsOf (fieldVisitsOf signature here address index members)) := by
  induction members generalizing here naming index with
  | nil => rfl
  | cons head tail inductionHypothesis =>
      rw [declareFindingsOf, fieldVisitsOf, Visit.findingsOf_append, allAbout_append,
        allAbout_append, inductionHypothesis, allAbout_declareFindings]

theorem findings_parameterVisits
    (member : Stmt) :
    Visit.findingsOf (member.parameterVisits signature address) =
      member.bindFindings signature.entries address := by
  cases member with
  | accessor name type parameters => exact VariableDecl.findings_visitsOf parameters
  | _ => rfl

theorem findings_parameterVisitsOf
    (members : List Stmt) :
    Visit.findingsOf (parameterVisitsOf signature address index members) =
      bindFindingsOf signature.entries address index members := by
  induction members generalizing index with
  | nil => rfl
  | cons head tail inductionHypothesis =>
      rw [parameterVisitsOf, bindFindingsOf, Visit.findingsOf_append, inductionHypothesis,
        findings_parameterVisits]

/-- A member is visited in the region that those before it leave. -/
theorem mem_fieldVisitsOf
    {visit : Visit} {members : List Stmt} :
    visit ∈ fieldVisitsOf signature here address index members ↔
      ∃ (number : Nat) (member : Stmt), members[number]? = some member ∧
        visit ∈ member.fieldVisits signature (here ++ (members.take number).flatMap fields)
          ((index + number) :: address) :=
  mem_declaring (fun near => fieldVisitsOf signature near address)
    (fun near place member => member.fieldVisits signature near (place :: address)) fields
    (fun _ _ => List.not_mem_nil) (fun _ _ _ _ => List.mem_append) here

theorem mem_parameterVisitsOf
    {visit : Visit} {members : List Stmt} :
    visit ∈ parameterVisitsOf signature address index members ↔
      ∃ (number : Nat) (member : Stmt), members[number]? = some member ∧
        visit ∈ member.parameterVisits signature ((index + number) :: address) :=
  mem_numbered (parameterVisits signature) (fun _ => List.not_mem_nil) fun _ _ _ => List.mem_append

/-- Fields and parameters of a member have nodes of their own. -/
theorem apart_memberVisits
    (member : Stmt) :
    Apart Visit.address address
      (member.fieldVisits signature here address ++
        member.parameterVisits signature address) := by
  cases member with
  | declare fields =>
      have ofFields : Apart Visit.address address
          (VariableDecl.visitsOf signature here [] address 0 fields ++ []) := by
        rw [List.append_nil]
        exact (VariableDecl.spread_visitsOf address 0 fields).apart
      exact ofFields
  | accessor name type parameters field =>
      have ofParameters : Apart Visit.address (0 :: address)
          (VariableDecl.visitsOf signature [] [] (0 :: address) 0 parameters) :=
        (VariableDecl.spread_visitsOf _ 0 parameters).apart
      have ofField : Spread Visit.address address 1
          (VariableDecl.visitsOf signature here [] address 1 [field]) :=
        VariableDecl.spread_visitsOf address 1 [field]
      exact (Spread.append ofParameters ofField).apart.of_perm List.perm_append_comm
  | _ => exact Apart.nil

theorem spread_memberVisits
    (members : List Stmt) :
    Spread Visit.address address index
      (fieldVisitsOf signature here address index members ++
        parameterVisitsOf signature address index members) := by
  induction members generalizing here index with
  | nil => exact Spread.nil
  | cons head tail inductionHypothesis =>
      have ofHead : Apart Visit.address (index :: address)
          (head.fieldVisits signature here (index :: address) ++
            head.parameterVisits signature (index :: address)) := head.apart_memberVisits
      have ofTail : Spread Visit.address address (index + 1)
          (fieldVisitsOf signature (here ++ head.fields) address (index + 1) tail ++
            parameterVisitsOf signature address (index + 1) tail) := inductionHypothesis
      refine (Spread.append ofHead ofTail).of_perm ?_
      rw [fieldVisitsOf, parameterVisitsOf, List.append_assoc, List.append_assoc]
      exact List.Perm.append_left _ (List.perm_append_comm_assoc _ _ _)

end Stmt

/-! ## Structs -/

namespace StructDecl

/-- The visits of a struct: those of its fields, then those of the parameters of its accessors. -/
def memberVisits (signature : Signature) (address : Address) (declaration : StructDecl) :
    List Visit :=
  Stmt.fieldVisitsOf signature [] (0 :: address) 0 declaration.members ++
    Stmt.parameterVisitsOf signature (0 :: address) 0 declaration.members

/-- The visits of structs, numbered from an index on. -/
def memberVisitsOf (signature : Signature) (index : Nat) : List StructDecl → List Visit
  | [] => []
  | head :: tail =>
      head.memberVisits signature (Program.structAddress index) ++
        memberVisitsOf signature (index + 1) tail

theorem allAbout_checkFindings
    {made : Nat} (place : Address) (declaration : StructDecl) :
    allAbout place (declaration.checkFindings signature.entries container made address) =
      allAbout place (Visit.findingsOf (declaration.memberVisits signature address)) := by
  rw [checkFindings, memberVisits, Visit.findingsOf_append, allAbout_append, allAbout_append,
    Stmt.allAbout_declareFindingsOf, Stmt.findings_parameterVisitsOf]

theorem allAbout_checkFindingsOf
    {made : Nat} (signature : Signature) (place : Address) (structs : List (String × StructDecl)) :
    allAbout place (checkFindingsOf signature.entries made index structs) =
      allAbout place
        (Visit.findingsOf (memberVisitsOf signature index (structs.map Prod.snd))) := by
  induction structs generalizing made index with
  | nil => rfl
  | cons head tail inductionHypothesis =>
      rw [checkFindingsOf, List.map_cons, memberVisitsOf, Visit.findingsOf_append, allAbout_append,
        allAbout_append, inductionHypothesis, allAbout_checkFindings]

theorem spread_memberVisits
    (declaration : StructDecl) :
    Spread Visit.address address 0 (declaration.memberVisits signature address) :=
  .of_child (Stmt.spread_memberVisits declaration.members).apart

theorem spread_memberVisitsOf
    (structs : List StructDecl) :
    Spread Visit.address [0] index (memberVisitsOf signature index structs) := by
  induction structs generalizing index with
  | nil => exact Spread.nil
  | cons head tail inductionHypothesis =>
      exact Spread.append head.spread_memberVisits.apart inductionHypothesis

theorem mem_memberVisitsOf
    {structs : List StructDecl} {visit : Visit} :
    visit ∈ memberVisitsOf signature index structs ↔
      ∃ (number : Nat) (declaration : StructDecl), structs[number]? = some declaration ∧
        visit ∈ declaration.memberVisits signature (Program.structAddress (index + number)) :=
  mem_numbered (memberVisits signature) (fun _ => List.not_mem_nil) fun _ _ _ => List.mem_append

end StructDecl

namespace Program

variable {program : Program} {visit : Visit}

/-- The visits of all members of a program. -/
def memberVisits (program : Program) : List Visit :=
  StructDecl.memberVisitsOf program.signature 0 program.structs

theorem mem_memberVisits :
    visit ∈ program.memberVisits ↔ ∃ (number place : Nat) (owner : StructDecl) (member : Stmt),
      program.structs[number]? = some owner ∧ owner.members[place]? = some member ∧
        (visit ∈ member.fieldVisits program.signature
            ((owner.members.take place).flatMap Stmt.fields)
            (place :: 0 :: structAddress number) ∨
          visit ∈ member.parameterVisits program.signature
            (place :: 0 :: structAddress number)) := by
  simp only [memberVisits, StructDecl.mem_memberVisitsOf, StructDecl.memberVisits,
    List.mem_append, Stmt.mem_fieldVisitsOf, Stmt.mem_parameterVisitsOf, Nat.zero_add,
    List.nil_append]
  grind

/-- What is visited at members is deep below a struct. -/
theorem below_of_mem_memberVisits
    (isVisit : visit ∈ program.memberVisits) :
    ∃ number, 0 :: structAddress number <:+ visit.address := by
  obtain ⟨number, declaration, -, isOwn⟩ := StructDecl.mem_memberVisitsOf.mp isVisit
  rw [Nat.zero_add] at isOwn
  exact ⟨number, (Stmt.spread_memberVisits declaration.members).apart.below visit isOwn⟩

theorem allAbout_memberFindings
    (place : Address) :
    allAbout place program.memberFindings =
      allAbout place (Visit.findingsOf program.memberVisits) := by
  rw [memberVisits, ← snd_namedStructs]
  exact StructDecl.allAbout_checkFindingsOf program.signature place program.namedStructs

/-- What is found deep below a struct is found in visits of members. -/
theorem allAbout_findings_below
    {address : Address} {number : Nat} (isBelow : 0 :: structAddress number <:+ address) :
    allAbout address program.findings =
      allAbout address (Visit.findingsOf program.memberVisits) := by
  have notStruct (other : Nat) : address ≠ structAddress other := fun same => by
    rw [same] at isBelow
    exact absurd isBelow.length_le (by simp [structAddress])
  have inStruct : [0] <:+ address := (List.suffix_append [0, number] [0]).trans isBelow
  have notFunction (other : Nat) : address ≠ functionAddress other := fun same => by
    rw [same] at isBelow
    exact absurd isBelow.length_le (by simp [structAddress, functionAddress])
  have noBody : allAbout address program.bodyFindings = [] := by
    refine allAbout_eq_nil fun finding isFound isAbout => ?_
    rcases mem_bodyFindings isFound with ⟨other, isOther, isOwn⟩ | ⟨place, declaration, -, atResult⟩
    · rw [other.about?_findings finding isOwn, Option.some.injEq] at isAbout
      exact (address_of_mem_visits isOther).2 (isAbout ▸ inStruct)
    · exact notFunction _ (declaration.about?_resultFindings finding atResult isAbout)
  rw [findings, allAbout_append, allAbout_append, allAbout_append, noBody,
    allAbout_memberFindings, allAbout_declareFindings notStruct notFunction,
    allAbout_cycleFindings notStruct, List.nil_append, List.nil_append, List.append_nil]

/-- What is found about a variable of a struct is found in its visit. -/
theorem allAbout_findings_of_member
    (isVisit : visit ∈ program.memberVisits) :
    allAbout visit.address program.findings = visit.findings := by
  obtain ⟨number, isBelow⟩ := below_of_mem_memberVisits isVisit
  rw [allAbout_findings_below isBelow]
  exact Visit.allAbout_findingsOf
    (StructDecl.spread_memberVisitsOf program.structs).distinct isVisit

end Program

end StructLang
