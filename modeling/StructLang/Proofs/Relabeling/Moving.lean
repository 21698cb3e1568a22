import StructLang.Proofs.Check.Nodes
import StructLang.Proofs.Relabeling.Nodes
import StructLang.Proofs.Relabeling.Programs

/-!
# Moving declarations

A declaration that stands at another place of a program is the same tree with nodes at other
addresses. So it is relabeled by moving addresses alone, and where names and members mean the same
around it, what is found in it is what was found, at other addresses.
-/

namespace StructLang

/-- The relabeling that moves the addresses below one place to below another one. -/
def Relabeling.moving (source target : Address) : Relabeling := ⟨id, id, id, source, target⟩

namespace Relabeling

variable {source target : Address}

theorem faithful_moving : (moving source target).Faithful where
  injective := Function.injective_id
  numbered _ := rfl
  suffixed _ _ _ := rfl

theorem address_moving
    (way : Address) : (moving source target).address (way ++ source) = way ++ target :=
  address_append way

end Relabeling

open Relabeling (moving)

variable {source target : Address}

/-! ## Trees without their addresses -/

theorem NodeKind.rename_id
    (name : String) (kind : NodeKind) : kind.rename id name = name :=
  ite_self _

namespace Stray

mutual

theorem relabel_moving : (stray : Stray) → stray.relabel (moving source target) = stray
  | node kind name position below => by
      rw [relabel, relabelAll_moving below]
      exact congrArg (node kind · position below) (kind.rename_id name)

theorem relabelAll_moving :
    (strays : List Stray) → relabelAll (moving source target) strays = strays
  | [] => rfl
  | head :: tail => by rw [relabelAll, relabel_moving head, relabelAll_moving tail]

end

end Stray

namespace Expr

mutual

theorem relabel_moving :
    (expression : Expr) → expression.relabel (moving source target) = expression
  | integer .. | boolean .. | name .. | absent => rfl
  | group items _ => by
      rw [relabel, relabelAll_moving items]
      rfl
  | binary left _ right _ => by
      rw [relabel, relabel_moving left, relabel_moving right]
      rfl
  | unary _ operand _ => by
      rw [relabel, relabel_moving operand]
      rfl
  | index list place _ => by
      rw [relabel, relabel_moving list, relabel_moving place]
      rfl
  | member owner _ _ => by
      rw [relabel, relabel_moving owner]
      rfl
  | size list _ => by
      rw [relabel, relabel_moving list]
      rfl
  | append list element _ => by
      rw [relabel, relabel_moving list, relabel_moving element]
      rfl
  | call callee arguments _ => by
      rw [relabel, relabel_moving callee, relabelAll_moving arguments]
      rfl
  | stray node => congrArg stray node.relabel_moving

theorem relabelAll_moving :
    (expressions : List Expr) → relabelAll (moving source target) expressions = expressions
  | [] => rfl
  | head :: tail => by rw [relabelAll, relabel_moving head, relabelAll_moving tail]

end

end Expr

theorem VariableDecl.relabel_moving
    (declaration : VariableDecl) : declaration.relabel (moving source target) = declaration :=
  congrArg (VariableDecl.mk _ · _) (Ty.rename_id declaration.type)

theorem Region.relabel_moving
    (region : Region) : region.relabel (moving source target) = region :=
  (List.map_congr_left fun declaration _ => declaration.relabel_moving).trans (List.map_id region)

namespace Stmt

mutual

theorem relabel_moving : (statement : Stmt) → statement.relabel (moving source target) = statement
  | block statements _ => by
      rw [relabel, relabelAll_moving statements]
      rfl
  | declare declared _ => by
      rw [relabel, Region.relabel_moving]
      rfl
  | assign target value _ => by
      rw [relabel, target.relabel_moving, value.relabel_moving]
      rfl
  | branch condition thenBody elseBody _ => by
      rw [relabel, condition.relabel_moving, relabel_moving thenBody, relabel_moving elseBody]
      rfl
  | loop condition body _ => by
      rw [relabel, condition.relabel_moving, relabel_moving body]
      rfl
  | display expression _ | append expression _ | size expression _ | call expression _ => by
      rw [relabel, expression.relabel_moving]
      rfl
  | giveBack none _ => rfl
  | giveBack (some value) _ => by
      rw [relabel, Option.map_some, value.relabel_moving]
      rfl
  | accessor _ type parameters field setBody getBody _ => by
      have isType : type.rename (moving source target).name = type := Ty.rename_id type
      rw [relabel, isType, Region.relabel_moving, field.relabel_moving, relabel_moving setBody,
        relabel_moving getBody]
      rfl
  | stray node => congrArg stray node.relabel_moving
  | absent => rfl

theorem relabelAll_moving :
    (statements : List Stmt) → relabelAll (moving source target) statements = statements
  | [] => rfl
  | head :: tail => by rw [relabelAll, relabel_moving head, relabelAll_moving tail]

end

end Stmt

theorem StructDecl.relabel_moving
    (declaration : StructDecl) : declaration.relabel (moving source target) = declaration := by
  rw [relabel, Stmt.relabelAll_moving]
  rfl

theorem FunctionDecl.relabel_moving
    (declaration : FunctionDecl) : declaration.relabel (moving source target) = declaration := by
  have isResult : declaration.result.rename (moving source target).name = declaration.result :=
    Ty.rename_id declaration.result
  rw [relabel, isResult, Region.relabel_moving, Stmt.relabel_moving]
  rfl

/-! ## Nodes elsewhere -/

/-- A node below a place is moved along with all that is there. -/
theorem Node.exists_moved
    {nodes moved : List Node} (areMoved : moved = nodes.map (Node.relabel (moving source target)))
    {node : Node} (isNode : node ∈ nodes) (isBelow : source <:+ node.address) :
    ∃ way, node.address = way ++ source ∧
      ⟨way ++ target, node.kind, node.name, node.position⟩ ∈ moved := by
  obtain ⟨way, isAddress⟩ := isBelow
  refine ⟨way, isAddress.symm, areMoved ▸ List.mem_map.mpr ⟨node, isNode, ?_⟩⟩
  rw [Node.relabel, ← isAddress, Relabeling.address_moving]
  exact congrArg (Node.mk _ _ · _) (node.kind.rename_id node.name)

/-- A node of a struct is a node of the struct wherever that stands. -/
theorem StructDecl.exists_moved
    {declaration : StructDecl} {node : Node} (isNode : node ∈ declaration.nodes source)
    (target : Address) :
    ∃ way, node.address = way ++ source ∧
      ⟨way ++ target, node.kind, node.name, node.position⟩ ∈ declaration.nodes target := by
  have areMoved := declaration.nodes_relabel (moving source target) []
  rw [declaration.relabel_moving] at areMoved
  exact Node.exists_moved areMoved isNode ((declaration.apart_nodes source).below node isNode)

/-- A node of a function is a node of the function wherever that stands. -/
theorem FunctionDecl.exists_moved
    {declaration : FunctionDecl} {node : Node} (isNode : node ∈ declaration.nodes source)
    (target : Address) :
    ∃ way, node.address = way ++ source ∧
      ⟨way ++ target, node.kind, node.name, node.position⟩ ∈ declaration.nodes target := by
  have areMoved := declaration.nodes_relabel (moving source target) []
  rw [declaration.relabel_moving] at areMoved
  exact Node.exists_moved areMoved isNode ((declaration.apart_nodes source).below node isNode)

/-! ## What is found elsewhere -/

theorem Verdict.rename_id
    (verdict : Verdict) : verdict.rename id = verdict := by
  cases verdict with
  | type found => exact congrArg type (Ty.rename_id found)
  | fault kind names => exact congrArg (fault kind) (kind.rename_id names)

theorem Diagnostic.relabel_moving
    (diagnostic : Diagnostic) : diagnostic.relabel (moving source target) = diagnostic :=
  congrArg (Diagnostic.mk _ _) (diagnostic.kind.rename_id diagnostic.names)

/-- A complaint about a declaration moves with the declaration. -/
theorem Finding.relabel_moving_complaint
    (kind : DiagnosticKind) (position : Position) (names : List String) :
    (complaint kind source position names).relabel (moving source target) =
      complaint kind target position names := by
  have moved : (complaint kind ([] ++ source) position names).relabel (moving source target) =
      complaint kind ([] ++ target) position (kind.rename id names) := relabel_complaint
  exact moved.trans (congrArg (complaint kind target position) (kind.rename_id names))

/-- Signatures by which names and members mean the same speak alike of declarations at other
places. -/
theorem Signature.follows_moving
    {signature other : Signature}
    (sameAround : ∀ regions, other.around regions = signature.around regions)
    (sameStructs : ∀ name, (other.entry? ⟨.structs, name⟩).isSome =
      (signature.entry? ⟨.structs, name⟩).isSome)
    (sameFunctions : ∀ name, (other.entry? ⟨.functions, name⟩).isSome =
      (signature.entry? ⟨.functions, name⟩).isSome) :
    signature.Follows (moving source target) other where
  around regions := by
    have sameRegions : regions.map (Region.relabel (moving source target)) = regions :=
      (List.map_congr_left fun region _ => region.relabel_moving).trans (List.map_id regions)
    rw [sameRegions, sameAround]
    refine ⟨fun called => (Verdict.rename_id _).symm, fun owner called => ?_⟩
    have isOwner : owner.rename (moving source target).name = owner := Ty.rename_id owner
    rw [isOwner]
    exact (Verdict.rename_id _).symm
  isStruct := sameStructs
  isFunction := sameFunctions

end StructLang
