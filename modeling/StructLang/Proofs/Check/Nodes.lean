import StructLang.Program.Basic
import StructLang.Proofs.Check.Addresses

/-!
# Addresses of nodes

Every node of a program has an address of its own, and every visit of a statement is of one of its
nodes. So what a check says at an address, it says about one node of a known kind.
-/

namespace StructLang

theorem Spread.flatten_mapIdx
    {alpha beta : Type} {place : alpha → Address} {address : Address} {low : Nat}
    {parts : Nat → beta → List alpha} (owners : List beta)
    (apart : ∀ index owner, Apart place ((low + index) :: address) (parts index owner)) :
    Spread place address low (owners.mapIdx parts).flatten := by
  induction owners generalizing low parts with
  | nil => exact Spread.nil
  | cons head tail inductionHypothesis =>
      rw [List.mapIdx_cons, List.flatten_cons]
      have apartTail (index : Nat) (owner : beta) :
          Apart place ((low + 1 + index) :: address) (parts (index + 1) owner) := by
        rw [Nat.add_assoc, Nat.add_comm 1]
        exact apart (index + 1) owner
      exact Spread.append (apart 0 head) (inductionHypothesis apartTail)

/-! ## Nodes have addresses of their own -/

namespace Stray

mutual

theorem apart_nodes
    (address : Address) :
    (stray : Stray) → Apart Node.address address (stray.nodes address)
  | .node _ _ _ below => Apart.first (spread_nodesOf address 0 below) rfl

theorem spread_nodesOf
    (address : Address) (index : Nat) :
    (strays : List Stray) → Spread Node.address address index (nodesOf address index strays)
  | [] => Spread.nil
  | head :: tail =>
      Spread.append (apart_nodes _ head) (spread_nodesOf address (index + 1) tail)

end

end Stray

namespace Expr

mutual

theorem apart_nodes
    (address : Address) :
    (expression : Expr) → Apart Node.address address (expression.nodes address)
  | .integer .. | .boolean .. | .name .. => Apart.alone rfl
  | .group items _ => Apart.first (spread_nodesOf address 0 items) rfl
  | .binary left _ right _ =>
      Apart.first (.append (apart_nodes _ left) (.of_child (apart_nodes _ right))) rfl
  | .unary _ operand _ => Apart.first (.of_child (apart_nodes _ operand)) rfl
  | .index list place _ =>
      Apart.first (.append (apart_nodes _ list) (.of_child (apart_nodes _ place))) rfl
  | .member owner _ _ => Apart.first (.of_child (apart_nodes _ owner)) rfl
  | .size list _ => Apart.first (.of_child (apart_nodes _ list)) rfl
  | .append list element _ =>
      Apart.first (.append (apart_nodes _ list) (.of_child (apart_nodes _ element))) rfl
  | .call callee arguments _ =>
      Apart.first (.append (apart_nodes _ callee)
        (.of_child (spread_nodesOf (1 :: address) 0 arguments).apart)) rfl
  | .stray node => node.apart_nodes address
  | .absent => Apart.nil

theorem spread_nodesOf
    (address : Address) (index : Nat) :
    (expressions : List Expr) →
      Spread Node.address address index (nodesOf address index expressions)
  | [] => Spread.nil
  | head :: tail =>
      Spread.append (apart_nodes _ head) (spread_nodesOf address (index + 1) tail)

end

end Expr

theorem VariableDecl.spread_nodesOf
    (address : Address) (index : Nat) (declarations : List VariableDecl) :
    Spread Node.address address index (nodesOf address index declarations) := by
  induction declarations generalizing index with
  | nil => exact Spread.nil
  | cons head tail inductionHypothesis =>
      have apart : Apart Node.address (index :: address) [head.node (index :: address)] :=
        Apart.alone rfl
      exact Spread.append apart (inductionHypothesis (index + 1))

namespace Stmt

mutual

theorem apart_nodes
    (address : Address) :
    (statement : Stmt) → Apart Node.address address (statement.nodes address)
  | .block statements _ => Apart.first (spread_nodesOf address 0 statements) rfl
  | .declare declared _ => Apart.first (VariableDecl.spread_nodesOf address 0 declared) rfl
  | .assign target value _ =>
      Apart.first (.append (target.apart_nodes _) (.of_child (value.apart_nodes _))) rfl
  | .branch condition thenBody elseBody _ => by
      rw [nodes, List.append_assoc]
      exact Apart.first (.append (condition.apart_nodes _)
        (.append (apart_nodes _ thenBody) (.of_child (apart_nodes _ elseBody)))) rfl
  | .loop condition body _ =>
      Apart.first (.append (condition.apart_nodes _) (.of_child (apart_nodes _ body))) rfl
  | .display argument _ => Apart.first (.of_child (argument.apart_nodes _)) rfl
  | .append expression _ | .size expression _ | .call expression _ =>
      Apart.first (.of_child (expression.apart_nodes _)) rfl
  | .giveBack none _ => Apart.alone rfl
  | .giveBack (some value) _ => Apart.first (.of_child (value.apart_nodes _)) rfl
  | .accessor _ _ parameters field setBody getBody _ => by
      have apartField : Apart Node.address (1 :: address) [field.node (1 :: address)] :=
        Apart.alone rfl
      rw [nodes, List.append_assoc, List.append_assoc]
      exact Apart.first (.append (VariableDecl.spread_nodesOf _ 0 parameters).apart
        (.append apartField
          (.append (apart_nodes _ setBody) (.of_child (apart_nodes _ getBody))))) rfl
  | .stray node => node.apart_nodes address
  | .absent => Apart.nil

theorem spread_nodesOf
    (address : Address) (index : Nat) :
    (statements : List Stmt) →
      Spread Node.address address index (nodesOf address index statements)
  | [] => Spread.nil
  | head :: tail =>
      Spread.append (apart_nodes _ head) (spread_nodesOf address (index + 1) tail)

end

end Stmt

theorem StructDecl.apart_nodes
    (address : Address) (declaration : StructDecl) :
    Apart Node.address address (declaration.nodes address) :=
  Apart.first (.of_child (Apart.first (Stmt.spread_nodesOf _ 0 declaration.members) rfl)) rfl

theorem FunctionDecl.apart_nodes
    (address : Address) (declaration : FunctionDecl) :
    Apart Node.address address (declaration.nodes address) :=
  Apart.first (.append (VariableDecl.spread_nodesOf _ 0 declaration.parameters).apart
    (.of_child (declaration.body.apart_nodes _))) rfl

theorem MainDecl.apart_nodes
    (address : Address) (declaration : MainDecl) :
    Apart Node.address address (declaration.nodes address) :=
  Apart.first (.of_child (declaration.body.apart_nodes _)) rfl

/-- Every node of a program has an address of its own. -/
theorem Program.apart_nodes
    (program : Program) : Apart Node.address [] program.nodes := by
  have structs : Spread Node.address [0] 0 (program.structs.mapIdx fun index declaration =>
      declaration.nodes (structAddress index)).flatten :=
    Spread.flatten_mapIdx program.structs fun index declaration => by
      rw [Nat.zero_add]
      exact declaration.apart_nodes (structAddress index)
  have functions : Spread Node.address [1] 0 (program.functions.mapIdx fun index declaration =>
      declaration.nodes (functionAddress index)).flatten :=
    Spread.flatten_mapIdx program.functions fun index declaration => by
      rw [Nat.zero_add]
      exact declaration.apart_nodes (functionAddress index)
  have main : Apart Node.address [2] ((program.main?.map (·.nodes mainAddress)).getD []) := by
    cases program.main? with
    | none => exact Apart.nil
    | some declaration => exact declaration.apart_nodes mainAddress
  rw [nodes, List.append_assoc]
  exact Apart.first (.append structs.apart (.append functions.apart (.of_child main))) rfl

/-! ## Declarations -/

/-- Whether nodes of a kind declare something. -/
def NodeKind.isDeclaration : NodeKind → Bool
  | program | variableDecl | structDecl | functionDecl | mainDecl | accessorDecl => true
  | _ => false

/-- One of some nodes is a declaration at an address. -/
def Node.DeclaredIn (nodes : List Node) (address : Address) : Prop :=
  ∃ node ∈ nodes, node.address = address ∧ node.kind.isDeclaration

theorem Node.DeclaredIn.mono
    {nodes others : List Node} {address : Address} (isDeclared : DeclaredIn nodes address)
    (subset : nodes ⊆ others) : DeclaredIn others address := by
  obtain ⟨node, isThere, isNode⟩ := isDeclared
  exact ⟨node, subset isThere, isNode⟩

theorem Node.DeclaredIn.below
    {nodes : List Node} {address place : Address} (isDeclared : DeclaredIn nodes place)
    (apart : Apart Node.address address nodes) : address <:+ place := by
  obtain ⟨node, isThere, rfl, -⟩ := isDeclared
  exact apart.below node isThere

/-! ## Visits are of nodes -/

/-- What is looked at in a visit is a node of this kind. -/
def Subject.kind : Subject → NodeKind
  | expression shown => shown.kind
  | statement shown => shown.kind
  | declaration _ => .variableDecl

/-- What is looked at in a visit stands at this place of the text. -/
def Subject.position : Subject → Position
  | expression shown => shown.position
  | statement shown => shown.position
  | declaration shown => shown.position

/-- Where a node is, what it is and where it stands in the text. -/
def Node.label (node : Node) : Address × NodeKind × Position :=
  (node.address, node.kind, node.position)

/-- Where the node of a visit is, what it is and where it stands in the text. -/
def Visit.label (visit : Visit) : Address × NodeKind × Position :=
  (visit.address, visit.subject.kind, visit.subject.position)

theorem Node.eq_of_label
    {node : Node} {visit : Visit} (isLabel : node.label = visit.label) :
    node.address = visit.address ∧ node.kind = visit.subject.kind ∧
      node.position = visit.subject.position := by
  simpa [label, Visit.label] using isLabel

namespace Expr

/-- Where a part of an expression is, what it is and where it stands in the text. -/
def partLabel (part : Address × Expr) : Address × NodeKind × Position :=
  (part.1, part.2.kind, part.2.position)

mutual

/-- Every part of an expression is one of its nodes. -/
theorem labels_parts
    (address : Address) :
    (expression : Expr) →
      (expression.parts address).map partLabel ⊆ (expression.nodes address).map Node.label
  | .integer .. | .boolean .. | .name .. => List.Subset.refl _
  | .group items _ => by
      have ofItems := labels_partsOf address 0 items
      simp only [parts, nodes, List.map_append, List.map_cons, List.map_nil]
      grind [partLabel, Node.label, kind, position]
  | .binary left _ right _ => by
      have ofLeft := labels_parts (0 :: address) left
      have ofRight := labels_parts (1 :: address) right
      simp only [parts, nodes, List.map_append, List.map_cons, List.map_nil]
      grind [partLabel, Node.label, kind, position]
  | .index list place _ => by
      have ofList := labels_parts (0 :: address) list
      have ofPlace := labels_parts (1 :: address) place
      simp only [parts, nodes, List.map_append, List.map_cons, List.map_nil]
      grind [partLabel, Node.label, kind, position]
  | .append list element _ => by
      have ofList := labels_parts (0 :: address) list
      have ofElement := labels_parts (1 :: address) element
      simp only [parts, nodes, List.map_append, List.map_cons, List.map_nil]
      grind [partLabel, Node.label, kind, position]
  | .unary _ operand _ | .member operand _ _ | .size operand _ => by
      have ofOperand := labels_parts (0 :: address) operand
      simp only [parts, nodes, List.map_append, List.map_cons, List.map_nil]
      grind [partLabel, Node.label, kind, position]
  | .call callee arguments _ => by
      have ofCallee := labels_parts (0 :: address) callee
      have ofArguments := labels_partsOf (1 :: address) 0 arguments
      simp only [parts, nodes, List.map_append, List.map_cons, List.map_nil]
      grind [partLabel, Node.label, kind, position]
  | .stray _ | .absent => List.nil_subset _

theorem labels_partsOf
    (address : Address) (index : Nat) :
    (expressions : List Expr) →
      (partsOf address index expressions).map partLabel ⊆
        (nodesOf address index expressions).map Node.label
  | [] => List.nil_subset _
  | head :: tail => by
      have ofHead := labels_parts (index :: address) head
      have ofTail := labels_partsOf address (index + 1) tail
      simp only [partsOf, nodesOf, List.map_append]
      grind

end

theorem labels_visits
    (signature : Signature) (regions : List Region) (address : Address) (expression : Expr) :
    (expression.visits signature regions address).map Visit.label ⊆
      (expression.nodes address).map Node.label := by
  rw [visits, List.map_map]
  exact labels_parts address expression

end Expr

theorem VariableDecl.labels_visitsOf
    (signature : Signature) (here : Region) (outer : List Region) (address : Address)
    (index : Nat) (declarations : List VariableDecl) :
    (visitsOf signature here outer address index declarations).map Visit.label ⊆
      (nodesOf address index declarations).map Node.label := by
  induction declarations generalizing here index with
  | nil => exact List.nil_subset _
  | cons head tail inductionHypothesis =>
      exact List.cons_subset_cons _ (inductionHypothesis _ (index + 1))

namespace Stmt

mutual

/-- Every visit of a statement is of one of its nodes. -/
theorem labels_visits
    (signature : Signature) (here : Region) (outer : List Region) (address : Address) :
    (statement : Stmt) →
      (statement.visits signature here outer address).map Visit.label ⊆
        (statement.nodes address).map Node.label
  | .block statements _ => by
      have ofStatements := labels_visitsOf signature here outer address 0 statements
      simp only [visits, nodes, List.map_append, List.map_cons, List.map_nil]
      grind [Visit.label, Node.label, Subject.kind, Subject.position, kind, position]
  | .declare declared _ => by
      have ofDeclared := VariableDecl.labels_visitsOf signature here outer address 0 declared
      simp only [visits, nodes, List.map_append, List.map_cons, List.map_nil]
      grind [Visit.label, Node.label, Subject.kind, Subject.position, kind, position]
  | .assign target value _ => by
      have ofTarget := target.labels_visits signature (here :: outer) (0 :: address)
      have ofValue := value.labels_visits signature (here :: outer) (1 :: address)
      simp only [visits, nodes, List.map_append, List.map_cons, List.map_nil]
      grind [Visit.label, Node.label, Subject.kind, Subject.position, kind, position]
  | .branch condition thenBody elseBody _ => by
      have ofCondition :=
        condition.labels_visits signature ([] :: here :: outer) (0 :: address)
      have ofThen := labels_visits signature [] (here :: outer) (1 :: address) thenBody
      have ofElse := labels_visits signature [] (here :: outer) (2 :: address) elseBody
      simp only [visits, nodes, List.map_append, List.map_cons]
      grind [Visit.label, Node.label, Subject.kind, Subject.position, kind, position]
  | .loop condition body _ => by
      have ofCondition := condition.labels_visits signature (here :: outer) (0 :: address)
      have ofBody := labels_visits signature here outer (1 :: address) body
      simp only [visits, nodes, List.map_append, List.map_cons]
      grind [Visit.label, Node.label, Subject.kind, Subject.position, kind, position]
  | .display expression _ | .append expression _ | .size expression _
  | .call expression _ => by
      have ofExpression := expression.labels_visits signature (here :: outer) (0 :: address)
      simp only [visits, nodes, List.map_append, List.map_cons, List.map_nil]
      grind [Visit.label, Node.label, Subject.kind, Subject.position, kind, position]
  | .giveBack none _ => List.Subset.refl _
  | .giveBack (some value) _ => by
      have ofValue := value.labels_visits signature (here :: outer) (0 :: address)
      simp only [visits, nodes, List.map_append, List.map_cons, List.map_nil, Option.map_some,
        Option.getD_some]
      grind [Visit.label, Node.label, Subject.kind, Subject.position, kind, position]
  | .accessor .. | .stray _ | .absent => List.nil_subset _

theorem labels_visitsOf
    (signature : Signature) (here : Region) (outer : List Region) (address : Address)
    (index : Nat) :
    (statements : List Stmt) →
      (visitsOf signature here outer address index statements).map Visit.label ⊆
        (nodesOf address index statements).map Node.label
  | [] => List.nil_subset _
  | head :: tail => by
      have ofHead := labels_visits signature here outer (index :: address) head
      have ofTail :=
        labels_visitsOf signature (here ++ head.declares) outer address (index + 1) tail
      simp only [visitsOf, nodesOf, List.map_append]
      grind

end

end Stmt

end StructLang
