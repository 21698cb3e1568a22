import StructLang.Proofs.Relabeling.Trees

/-!
# Nodes of relabeled trees

The nodes of a relabeled tree are the nodes of the tree, relabeled, in the same order.
-/

namespace StructLang

variable (relabeling : Relabeling)

/-- A node below the place from which addresses move, with other labels. -/
@[simp] theorem Node.relabel_below
    (way : Address) (kind : NodeKind) (name : String) (position : Position) :
    Node.relabel relabeling ⟨way ++ relabeling.source, kind, name, position⟩ =
      ⟨way ++ relabeling.target, kind, kind.rename relabeling.name name,
        relabeling.position position⟩ := by
  rw [relabel, Relabeling.address_append]

namespace Stray

mutual

theorem nodes_relabel
    (way : Address) :
    (stray : Stray) →
      (stray.relabel relabeling).nodes (way ++ relabeling.target) =
        (stray.nodes (way ++ relabeling.source)).map (Node.relabel relabeling)
  | node kind name position below => by
      rw [relabel, nodes, nodes, List.map_cons, Node.relabel_below,
        nodesOf_relabel way 0 below]

theorem nodesOf_relabel
    (way : Address) (index : Nat) :
    (strays : List Stray) →
      nodesOf (way ++ relabeling.target) index (relabelAll relabeling strays) =
        (nodesOf (way ++ relabeling.source) index strays).map (Node.relabel relabeling)
  | [] => rfl
  | head :: tail => by
      have ofHead := nodes_relabel (index :: way) head
      simp only [List.cons_append] at ofHead
      rw [relabelAll, nodesOf, nodesOf, List.map_append, ofHead,
        nodesOf_relabel way (index + 1) tail]

end

end Stray

namespace Expr

mutual

theorem nodes_relabel
    (way : Address) :
    (expression : Expr) →
      (expression.relabel relabeling).nodes (way ++ relabeling.target) =
        (expression.nodes (way ++ relabeling.source)).map (Node.relabel relabeling)
  | .integer _ _ | .boolean _ _ | .name _ _ => by
      simp [relabel, nodes]
  | .group items _ => by
      simp [relabel, nodes, nodesOf_relabel way 0 items]
  | .binary left _ right _ | .index left right _ | .append left right _ => by
      have ofLeft := nodes_relabel (0 :: way) left
      have ofRight := nodes_relabel (1 :: way) right
      simp only [List.cons_append] at ofLeft ofRight
      simp [relabel, nodes, ofLeft, ofRight]
  | .unary _ operand _ | .member operand _ _ | .size operand _ => by
      have ofOperand := nodes_relabel (0 :: way) operand
      simp only [List.cons_append] at ofOperand
      simp [relabel, nodes, ofOperand]
  | .call callee arguments _ => by
      have ofCallee := nodes_relabel (0 :: way) callee
      have ofArguments := nodesOf_relabel (1 :: way) 0 arguments
      simp only [List.cons_append] at ofCallee ofArguments
      simp [relabel, nodes, ofCallee, ofArguments]
  | .stray node => node.nodes_relabel relabeling way
  | .absent => rfl

theorem nodesOf_relabel
    (way : Address) (index : Nat) :
    (expressions : List Expr) →
      nodesOf (way ++ relabeling.target) index (relabelAll relabeling expressions) =
        (nodesOf (way ++ relabeling.source) index expressions).map (Node.relabel relabeling)
  | [] => rfl
  | head :: tail => by
      have ofHead := nodes_relabel (index :: way) head
      simp only [List.cons_append] at ofHead
      rw [relabelAll, nodesOf, nodesOf, List.map_append, ofHead,
        nodesOf_relabel way (index + 1) tail]

end

end Expr

namespace VariableDecl

theorem node_relabel
    (way : Address) (declaration : VariableDecl) :
    (declaration.relabel relabeling).node (way ++ relabeling.target) =
      (declaration.node (way ++ relabeling.source)).relabel relabeling := by
  rw [node, node, Node.relabel_below]
  rfl

theorem nodesOf_relabel
    (way : Address) (index : Nat) (declarations : Region) :
    nodesOf (way ++ relabeling.target) index (declarations.relabel relabeling) =
      (nodesOf (way ++ relabeling.source) index declarations).map (Node.relabel relabeling) := by
  induction declarations generalizing index with
  | nil => rfl
  | cons head tail inductionHypothesis =>
      have ofHead := node_relabel relabeling (index :: way) head
      simp only [List.cons_append] at ofHead
      simp only [Region.relabel, List.map_cons, nodesOf, ofHead] at inductionHypothesis ⊢
      rw [inductionHypothesis]

end VariableDecl

namespace Stmt

mutual

theorem nodes_relabel
    (way : Address) :
    (statement : Stmt) →
      (statement.relabel relabeling).nodes (way ++ relabeling.target) =
        (statement.nodes (way ++ relabeling.source)).map (Node.relabel relabeling)
  | .block statements _ => by
      simp [relabel, nodes, nodesOf_relabel way 0 statements]
  | .declare declared _ => by
      simp [relabel, nodes, VariableDecl.nodesOf_relabel relabeling way 0 declared]
  | .assign target value _ => by
      have ofTarget := target.nodes_relabel relabeling (0 :: way)
      have ofValue := value.nodes_relabel relabeling (1 :: way)
      simp only [List.cons_append] at ofTarget ofValue
      simp [relabel, nodes, ofTarget, ofValue]
  | .branch condition thenBody elseBody _ => by
      have ofCondition := condition.nodes_relabel relabeling (0 :: way)
      have ofThen := nodes_relabel (1 :: way) thenBody
      have ofElse := nodes_relabel (2 :: way) elseBody
      simp only [List.cons_append] at ofCondition ofThen ofElse
      simp [relabel, nodes, ofCondition, ofThen, ofElse]
  | .loop condition body _ => by
      have ofCondition := condition.nodes_relabel relabeling (0 :: way)
      have ofBody := nodes_relabel (1 :: way) body
      simp only [List.cons_append] at ofCondition ofBody
      simp [relabel, nodes, ofCondition, ofBody]
  | .display expression _ | .append expression _ | .size expression _ | .call expression _ => by
      have ofExpression := expression.nodes_relabel relabeling (0 :: way)
      simp only [List.cons_append] at ofExpression
      simp [relabel, nodes, ofExpression]
  | .giveBack none _ => by
      simp [relabel, nodes]
  | .giveBack (some value) _ => by
      have ofValue := value.nodes_relabel relabeling (0 :: way)
      simp only [List.cons_append] at ofValue
      simp [relabel, nodes, ofValue]
  | .accessor name _ parameters field setBody getBody _ => by
      have ofParameters := VariableDecl.nodesOf_relabel relabeling (0 :: way) 0
        parameters
      have ofField := field.node_relabel relabeling (1 :: way)
      have ofSetting := nodes_relabel (2 :: way) setBody
      have ofGetting := nodes_relabel (3 :: way) getBody
      simp only [List.cons_append] at ofParameters ofField ofSetting ofGetting
      simp [relabel, nodes, ofParameters, ofField, ofSetting, ofGetting]
  | .stray node => node.nodes_relabel relabeling way
  | .absent => rfl

theorem nodesOf_relabel
    (way : Address) (index : Nat) :
    (statements : List Stmt) →
      nodesOf (way ++ relabeling.target) index (relabelAll relabeling statements) =
        (nodesOf (way ++ relabeling.source) index statements).map (Node.relabel relabeling)
  | [] => rfl
  | head :: tail => by
      have ofHead := nodes_relabel (index :: way) head
      simp only [List.cons_append] at ofHead
      rw [relabelAll, nodesOf, nodesOf, List.map_append, ofHead,
        nodesOf_relabel way (index + 1) tail]

end

end Stmt

theorem StructDecl.nodes_relabel
    (way : Address) (declaration : StructDecl) :
    (declaration.relabel relabeling).nodes (way ++ relabeling.target) =
      (declaration.nodes (way ++ relabeling.source)).map (Node.relabel relabeling) := by
  have ofMembers := Stmt.nodesOf_relabel relabeling (0 :: way) 0
    declaration.members
  have ofBody := Node.relabel_below relabeling (0 :: way) .block "" declaration.bodyPosition
  simp only [List.cons_append] at ofMembers ofBody
  simp [relabel, nodes, ofMembers, ofBody]

theorem FunctionDecl.nodes_relabel
    (way : Address) (declaration : FunctionDecl) :
    (declaration.relabel relabeling).nodes (way ++ relabeling.target) =
      (declaration.nodes (way ++ relabeling.source)).map (Node.relabel relabeling) := by
  have ofParameters := VariableDecl.nodesOf_relabel relabeling (0 :: way) 0
    declaration.parameters
  have ofBody := declaration.body.nodes_relabel relabeling (1 :: way)
  simp only [List.cons_append] at ofParameters ofBody
  simp [relabel, nodes, ofParameters, ofBody]

theorem MainDecl.nodes_relabel
    (way : Address) (declaration : MainDecl) :
    (declaration.relabel relabeling).nodes (way ++ relabeling.target) =
      (declaration.nodes (way ++ relabeling.source)).map (Node.relabel relabeling) := by
  have ofBody := declaration.body.nodes_relabel relabeling (0 :: way)
  simp only [List.cons_append] at ofBody
  simp [relabel, nodes, ofBody]

/-- A relabeled program has the nodes that it had, relabeled. -/
theorem Program.nodes_relabel
    {relabeling : Relabeling} (inPlace : relabeling.InPlace) (program : Program) :
    (program.relabel relabeling).nodes = program.nodes.map (Node.relabel relabeling) := by
  have ofStruct (address : Address) (declaration : StructDecl) :
      (declaration.relabel relabeling).nodes address =
        (declaration.nodes address).map (Node.relabel relabeling) := by
    simpa [inPlace.source, inPlace.target] using
      declaration.nodes_relabel relabeling address
  have ofFunction (address : Address) (declaration : FunctionDecl) :
      (declaration.relabel relabeling).nodes address =
        (declaration.nodes address).map (Node.relabel relabeling) := by
    simpa [inPlace.source, inPlace.target] using
      declaration.nodes_relabel relabeling address
  have ofMain : ((program.main?.map (MainDecl.relabel relabeling)).map
      (·.nodes mainAddress)).getD [] =
        ((program.main?.map (·.nodes mainAddress)).getD []).map (Node.relabel relabeling) := by
    cases program.main? with
    | none => rfl
    | some declaration =>
        simpa [inPlace.source, inPlace.target] using
          declaration.nodes_relabel relabeling mainAddress
  have areStructs : (program.structs.map (StructDecl.relabel relabeling)).mapIdx
      (fun index declaration => declaration.nodes (structAddress index)) =
        (program.structs.mapIdx fun index declaration =>
          declaration.nodes (structAddress index)).map (List.map (Node.relabel relabeling)) :=
    List.ext_getElem? fun index => by simp [Function.comp_def, ofStruct]
  have areFunctions : (program.functions.map (FunctionDecl.relabel relabeling)).mapIdx
      (fun index declaration => declaration.nodes (functionAddress index)) =
        (program.functions.mapIdx fun index declaration =>
          declaration.nodes (functionAddress index)).map (List.map (Node.relabel relabeling)) :=
    List.ext_getElem? fun index => by simp [Function.comp_def, ofFunction]
  simp only [nodes, relabel, areStructs, areFunctions, ofMain, List.map_cons, List.map_append,
    List.map_flatten]
  rw [Node.relabel, inPlace.address_eq]
  rfl

end StructLang
