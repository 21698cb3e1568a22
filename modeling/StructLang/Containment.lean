/-!
# Containment of structs

A graph over struct names: an arrow from one name to another says that the second struct has a
field of the first. Names stand in the order in which they came in. A name is its own ancestor if
a path of one arrow or more leads from it back to it; such structs have no finite size.
-/

namespace StructLang

/-- The names with those they have arrows to. -/
structure Containment where
  arrows : List (String × List String)
  deriving DecidableEq, Repr

namespace Containment

/-- The graph without names. -/
def empty : Containment := ⟨[]⟩

/-- The names in the order in which they came in. -/
def nodes (graph : Containment) : List String := graph.arrows.map (·.1)

/-- The names to which arrows lead from a name. -/
def children (graph : Containment) (name : String) : List String :=
  (graph.arrows.lookup name).getD []

/-- Adds a name, if it is new. -/
def addNode (graph : Containment) (name : String) : Containment :=
  if name ∈ graph.nodes then graph else ⟨graph.arrows ++ [(name, [])]⟩

/-- Adds an arrow between two names, both of which are in the graph. -/
def addArrow (graph : Containment) (parent child : String) : Containment :=
  ⟨graph.arrows.map fun (name, children) =>
    if name = parent ∧ child ∉ children then (name, children ++ [child]) else (name, children)⟩

/-- Adds an arrow between two names; of the names that are new the child comes in first. -/
def addEdge (graph : Containment) (parent child : String) : Containment :=
  ((graph.addNode child).addNode parent).addArrow parent child

/-- How many of some names are not among those visited. -/
def countUnvisited (names visited : List String) : Nat :=
  names.countP fun name => !visited.contains name

theorem countUnvisited_cons_le
    (names visited : List String) (name : String) :
    countUnvisited names (name :: visited) ≤ countUnvisited names visited :=
  List.countP_mono_left fun other _ outside => by
    simp only [List.contains_cons, Bool.not_eq_true', Bool.or_eq_false_iff] at outside
    rw [outside.2, Bool.not_false]

theorem countUnvisited_cons_lt
    {names visited : List String} {name : String}
    (isNode : name ∈ names) (isNew : name ∉ visited) :
    countUnvisited names (name :: visited) < countUnvisited names visited := by
  induction names with
  | nil => cases isNode
  | cons head tail inductionHypothesis =>
      have notMore := countUnvisited_cons_le tail visited name
      have notContained : visited.contains name = false := by
        simpa using isNew
      simp only [countUnvisited, List.countP_cons] at notMore inductionHypothesis ⊢
      by_cases same : head = name
      · subst same
        simp only [List.contains_cons, beq_self_eq_true, Bool.true_or, Bool.not_true,
          Bool.false_eq_true, if_false, notContained, Bool.not_false, if_true] at notMore ⊢
        omega
      · have inTail : name ∈ tail := by
          rcases List.mem_cons.mp isNode with equal | member
          · exact absurd equal.symm same
          · exact member
        have smaller := inductionHypothesis inTail
        simp only [List.contains_cons, beq_eq_false_iff_ne.mpr same, Bool.false_or] at smaller ⊢
        omega

theorem countUnvisited_cons_of_notMem
    {names visited : List String} {name : String}
    (outside : name ∉ names) :
    countUnvisited names (name :: visited) = countUnvisited names visited := by
  apply List.countP_congr
  intro other member
  have different : other ≠ name := fun equality => outside (equality ▸ member)
  simp [different]

theorem children_eq_nil
    {graph : Containment} {name : String}
    (outside : name ∉ graph.nodes) :
    graph.children name = [] := by
  have missing : graph.arrows.lookup name = none := by
    rw [List.lookup_eq_none_iff]
    intro pair member
    rw [bne_iff_ne]
    exact fun equality => outside (List.mem_map.mpr ⟨pair, member, equality.symm⟩)
  simp [children, missing]

/-- Whether a name is among the pending ones or can be reached from one of them without passing
through a visited name. -/
def reaches (graph : Containment) (target : String) (visited pending : List String) : Bool :=
  match pending with
  | [] => false
  | name :: others =>
      if name = target then true
      else if name ∈ visited then graph.reaches target visited others
      else graph.reaches target (name :: visited) (graph.children name ++ others)
termination_by (countUnvisited graph.nodes visited, pending.length)
decreasing_by
  · exact Prod.Lex.right _ (Nat.lt_succ_self _)
  · rename_i isNew
    by_cases isNode : name ∈ graph.nodes
    · exact Prod.Lex.left _ _ (countUnvisited_cons_lt isNode isNew)
    · rw [countUnvisited_cons_of_notMem isNode, children_eq_nil isNode]
      exact Prod.Lex.right _ (Nat.lt_succ_self _)

/-- Whether a path of one arrow or more leads from one name to another. -/
def isAncestor (graph : Containment) (ancestor descendant : String) : Bool :=
  graph.reaches descendant [] (graph.children ancestor)

/-- The names that are their own ancestors, in the order in which they came in. -/
def cyclicNodes (graph : Containment) : List String :=
  graph.nodes.filter fun name => graph.isAncestor name name

/-- The names with those they have arrows to, the latter in alphabetical order. -/
def listing (graph : Containment) : List (String × List String) :=
  graph.arrows.map fun (name, children) => (name, children.mergeSort (· ≤ ·))

end Containment

end StructLang
