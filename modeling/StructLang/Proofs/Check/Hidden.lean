import StructLang.Proofs.Check.Tables

/-!
# Programs without some bodies

Two programs are the same beside the bodies of accessors and of one function if they are the same
once these bodies are taken away. What a check does before it comes to the bodies does not depend on
them, nor does what the bodies are told about the declarations.
-/

namespace StructLang

open Check ScopeStore

/-! ## Taking bodies away -/

/-- A member without the blocks that an accessor has. -/
def Stmt.withoutBlocks : Stmt → Stmt
  | accessor name type parameters field _ _ position =>
      accessor name type parameters field absent absent position
  | member => member

/-- A struct without the blocks of its accessors. -/
def StructDecl.withoutBlocks (declaration : StructDecl) : StructDecl :=
  { declaration with members := declaration.members.map Stmt.withoutBlocks }

/-- A function without its body. -/
def FunctionDecl.withoutBody (declaration : FunctionDecl) : FunctionDecl :=
  { declaration with body := .absent }

/-- A program without the body of the function with a number and without the blocks of accessors. -/
def Program.withoutBodies (number : Nat) (program : Program) : Program :=
  { program with
    structs := program.structs.map StructDecl.withoutBlocks
    functions := program.functions.modify number FunctionDecl.withoutBody }

/-- Two programs are the same beside the body of one function and the blocks of accessors. -/
def Program.SameBeside (number : Nat) (program other : Program) : Prop :=
  program.withoutBodies number = other.withoutBodies number

/-- What does not depend on bodies is the same for programs that are the same beside them. -/
theorem Program.SameBeside.view_eq
    {alpha : Type} {number : Nat} {program other : Program} (same : program.SameBeside number other)
    (view : Program → alpha)
    (blind : ∀ program, view (program.withoutBodies number) = view program) :
    view program = view other :=
  (blind program).symm.trans ((congrArg view same).trans (blind other))

/-! ## Declarations do not look at bodies -/

namespace Stmt

theorem declareMember_withoutBlocks
    (address : Address) (member : Stmt) :
    member.withoutBlocks.declareMember address = member.declareMember address := by
  cases member <;> rfl

theorem bindMember_withoutBlocks
    (address : Address) (member : Stmt) :
    member.withoutBlocks.bindMember address = member.bindMember address := by
  cases member <;> rfl

theorem declareMembers_withoutBlocks
    (address : Address) (index : Nat) (members : List Stmt) :
    declareMembers address index (members.map withoutBlocks) =
      declareMembers address index members := by
  induction members generalizing index with
  | nil => rfl
  | cons head tail inductionHypothesis =>
      rw [List.map_cons, declareMembers, declareMembers, declareMember_withoutBlocks,
        inductionHypothesis]

theorem bindMembers_withoutBlocks
    (address : Address) (index : Nat) (members : List Stmt) :
    bindMembers address index (members.map withoutBlocks) =
      bindMembers address index members := by
  induction members generalizing index with
  | nil => rfl
  | cons head tail inductionHypothesis =>
      rw [List.map_cons, bindMembers, bindMembers, bindMember_withoutBlocks, inductionHypothesis]

theorem fields_withoutBlocks
    (member : Stmt) : member.withoutBlocks.fields = member.fields := by
  cases member <;> rfl

end Stmt

namespace StructDecl

theorem check_withoutBlocks
    (address : Address) (declaration : StructDecl) :
    declaration.withoutBlocks.check address = declaration.check address := by
  simp only [check, withoutBlocks, Stmt.declareMembers_withoutBlocks,
    Stmt.bindMembers_withoutBlocks]

theorem fields_withoutBlocks
    (declaration : StructDecl) : declaration.withoutBlocks.fields = declaration.fields := by
  simp only [fields, withoutBlocks, List.flatMap_map, Stmt.fields_withoutBlocks]

theorem declareAll_withoutBlocks
    (index : Nat) (structs : List StructDecl) :
    declareAll index (structs.map withoutBlocks) = declareAll index structs := by
  induction structs generalizing index with
  | nil => rfl
  | cons head tail inductionHypothesis =>
      rw [List.map_cons, declareAll, declareAll, inductionHypothesis]
      rfl

/-- What is read off each struct without its blocks is read off the structs. -/
theorem mapIdx_withoutBlocks
    {alpha : Type} {view : Nat → StructDecl → alpha} (blind : ∀ index declaration,
      view index (withoutBlocks declaration) = view index declaration) (structs : List StructDecl) :
    (structs.map withoutBlocks).mapIdx view = structs.mapIdx view := by
  induction structs generalizing view with
  | nil => rfl
  | cons head tail inductionHypothesis =>
      rw [List.map_cons, List.mapIdx_cons, List.mapIdx_cons, blind,
        inductionHypothesis fun index => blind (index + 1)]

theorem checkAll_withoutBlocks
    (index : Nat) (structs : List StructDecl) :
    checkAll index (structs.map withoutBlocks) = checkAll index structs := by
  induction structs generalizing index with
  | nil => rfl
  | cons head tail inductionHypothesis =>
      rw [List.map_cons, checkAll, checkAll, check_withoutBlocks, inductionHypothesis]

end StructDecl

namespace FunctionDecl

/-- What is read off each function without its body is read off the functions. -/
theorem map_withoutBody
    {alpha : Type} {view : FunctionDecl → alpha} (blind : ∀ declaration,
      view (withoutBody declaration) = view declaration) (number : Nat)
    (functions : List FunctionDecl) :
    (functions.modify number withoutBody).map view = functions.map view := by
  induction functions generalizing number with
  | nil => rw [List.modify_nil]
  | cons head tail inductionHypothesis =>
      cases number with
      | zero => rw [List.modify_zero_cons, List.map_cons, List.map_cons, blind]
      | succ number =>
          rw [List.modify_succ_cons, List.map_cons, List.map_cons, inductionHypothesis]

theorem declareAll_withoutBody
    (index number : Nat) (functions : List FunctionDecl) :
    declareAll index (functions.modify number withoutBody) = declareAll index functions := by
  induction functions generalizing index number with
  | nil => rw [List.modify_nil]
  | cons head tail inductionHypothesis =>
      cases number with
      | zero => rfl
      | succ number =>
          rw [List.modify_succ_cons, declareAll, declareAll, inductionHypothesis]

theorem lostOf_withoutBody
    (entries : List Entry) (index number : Nat) (functions : List FunctionDecl) :
    lostOf entries index (functions.modify number withoutBody) =
      lostOf entries index functions := by
  induction functions generalizing index number with
  | nil => rw [List.modify_nil]
  | cons head tail inductionHypothesis =>
      cases number with
      | zero => rfl
      | succ number =>
          rw [List.modify_succ_cons, lostOf, lostOf, inductionHypothesis]

/-- What is read off each function without its body, with its name in the program, is read off the
functions. -/
theorem mapIdx_zip_withoutBody
    {alpha : Type} {view : Nat → String × FunctionDecl → alpha}
    (blind : ∀ index name declaration,
      view index (name, withoutBody declaration) = view index (name, declaration))
    (known : List String) (number : Nat) (functions : List FunctionDecl) :
    (known.zip (functions.modify number withoutBody)).mapIdx view =
      (known.zip functions).mapIdx view := by
  induction functions generalizing view known number with
  | nil => rw [List.modify_nil]
  | cons head tail inductionHypothesis =>
      cases known with
      | nil => rfl
      | cons name known =>
          cases number with
          | zero =>
              rw [List.modify_zero_cons, List.zip_cons_cons, List.zip_cons_cons, List.mapIdx_cons,
                List.mapIdx_cons, blind]
          | succ number =>
              rw [List.modify_succ_cons, List.zip_cons_cons, List.zip_cons_cons, List.mapIdx_cons,
                List.mapIdx_cons, inductionHypothesis fun index => blind (index + 1)]

end FunctionDecl

/-! ## What is done before the bodies are checked -/

namespace Program

variable (number : Nat) (program : Program)

theorem checkContainment_withoutBodies :
    (program.withoutBodies number).checkContainment = program.checkContainment := by
  have sameKnown (state : CheckState) :
      (program.withoutBodies number).structKnownAs? state = program.structKnownAs? state := by
    funext name
    rw [structKnownAs?, structKnownAs?, withoutBodies,
      StructDecl.mapIdx_withoutBlocks fun _ _ => rfl]
  simp only [checkContainment, sameKnown]

theorem opening_withoutBodies :
    (program.withoutBodies number).opening = program.opening := by
  rw [opening, opening, checkContainment_withoutBodies]
  simp only [withoutBodies, StructDecl.declareAll_withoutBlocks,
    FunctionDecl.declareAll_withoutBody, StructDecl.checkAll_withoutBlocks]

theorem structNaming_withoutBodies :
    (program.withoutBodies number).structNaming = program.structNaming := by
  rw [structNaming, structNaming, withoutBodies, List.map_map]
  rfl

theorem functionNaming_withoutBodies :
    (program.withoutBodies number).functionNaming = program.functionNaming := by
  rw [functionNaming, functionNaming, structNaming_withoutBodies]
  exact congrArg _ (FunctionDecl.map_withoutBody (fun _ => rfl) number program.functions)

theorem entries_withoutBodies :
    (program.withoutBodies number).entries = program.entries := by
  rw [entries, entries, structNaming_withoutBodies, functionNaming_withoutBodies, rootEntries,
    rootEntries]
  exact congrArg _ (FunctionDecl.mapIdx_zip_withoutBody (fun _ _ _ => rfl) _ number _)

theorem signature_withoutBodies :
    (program.withoutBodies number).signature = program.signature := by
  have sameFields (scope : ScopeId) :
      ((program.withoutBodies number).structs[scope - 1]?.map StructDecl.fields).getD [] =
        (program.structs[scope - 1]?.map StructDecl.fields).getD [] := by
    rw [withoutBodies, List.getElem?_map, Option.map_map]
    exact congrArg (fun view => (Option.map view _).getD [])
      (funext StructDecl.fields_withoutBlocks)
  simp only [signature, entries_withoutBodies, sameFields]

theorem mainSignature_withoutBodies :
    (program.withoutBodies number).mainSignature = program.mainSignature := by
  rw [mainSignature, mainSignature, signature_withoutBodies, entries_withoutBodies]
  exact congrArg _ (FunctionDecl.lostOf_withoutBody _ 0 number program.functions)

end Program

end StructLang
