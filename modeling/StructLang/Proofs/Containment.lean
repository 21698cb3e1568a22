import Mathlib.Logic.Relation
import StructLang.Containment

/-!
# Paths in the containment graph

The search for a path keeps the names it has visited. A path that it finds is one of arrows, and a
path of arrows is found even though visited names are not entered again: from its last visit of a
name on, a path does without that name.
-/

namespace StructLang.Containment

variable {graph : Containment}

/-- An arrow leads from one name to another. -/
def Arrow (graph : Containment) (parent child : String) : Prop := child ∈ graph.children parent

/-! ## The search finds paths -/

/-- A path to a target that leaves no visited name. -/
inductive PathAround (graph : Containment) (target : String) (visited : List String) :
    String → Prop
  | here : PathAround graph target visited target
  | step {name next : String} :
      name ∉ visited → graph.Arrow name next → PathAround graph target visited next →
      PathAround graph target visited name

theorem PathAround.fewer
    {target name start : String} {visited : List String}
    (path : PathAround graph target (name :: visited) start) :
    PathAround graph target visited start := by
  induction path with
  | here => exact .here
  | step isNew arrow _ inductionHypothesis =>
      exact .step (fun isVisited => isNew (.tail _ isVisited)) arrow inductionHypothesis

/-- A path leaves a name for the last time, if it leaves it at all. -/
theorem PathAround.lastVisit
    {target start : String} {visited : List String} (name : String)
    (path : PathAround graph target visited start) :
    PathAround graph target (name :: visited) start ∨
      ∃ next, graph.Arrow name next ∧ PathAround graph target (name :: visited) next := by
  induction path with
  | here => exact Or.inl .here
  | @step current next isNew arrow path inductionHypothesis =>
      rcases inductionHypothesis with avoids | later
      · by_cases same : current = name
        · exact Or.inr ⟨next, same ▸ arrow, avoids⟩
        · refine Or.inl (.step (fun isVisited => ?_) arrow avoids)
          rcases List.mem_cons.mp isVisited with isName | isOld
          · exact same isName
          · exact isNew isOld
      · exact Or.inr later

/-- A name that was visited before leads to the target only by being it. -/
theorem exists_pathAround_of_visited
    {target name : String} {visited others : List String} (notTarget : name ≠ target)
    (isVisited : name ∈ visited) :
    (∃ start ∈ name :: others, PathAround graph target visited start) ↔
      ∃ start ∈ others, PathAround graph target visited start := by
  refine ⟨?_, fun ⟨start, isThere, path⟩ => ⟨start, .tail _ isThere, path⟩⟩
  rintro ⟨start, isThere, path⟩
  rcases List.mem_cons.mp isThere with rfl | inOthers
  · cases path with
    | here => exact absurd rfl notTarget
    | step isNew => exact absurd isVisited isNew
  · exact ⟨start, inOthers, path⟩

/-- Once a name is visited, the names to which arrows lead from it stand in its place. -/
theorem exists_pathAround_of_new
    {target name : String} {visited others next : List String} (notTarget : name ≠ target)
    (isNew : name ∉ visited) (areNext : ∀ child, child ∈ next ↔ graph.Arrow name child) :
    (∃ start ∈ name :: others, PathAround graph target visited start) ↔
      ∃ start ∈ next ++ others, PathAround graph target (name :: visited) start := by
  constructor
  · rintro ⟨start, isThere, path⟩
    rcases path.lastVisit name with avoids | ⟨child, arrow, avoids⟩
    · rcases List.mem_cons.mp isThere with rfl | inOthers
      · cases avoids with
        | here => exact absurd rfl notTarget
        | step isOutside => exact absurd List.mem_cons_self isOutside
      · exact ⟨start, List.mem_append_right _ inOthers, avoids⟩
    · exact ⟨child, List.mem_append_left _ ((areNext child).mpr arrow), avoids⟩
  · rintro ⟨start, isThere, path⟩
    rcases List.mem_append.mp isThere with isNext | inOthers
    · exact ⟨name, List.mem_cons_self, .step isNew ((areNext start).mp isNext) path.fewer⟩
    · exact ⟨start, .tail _ inOthers, path.fewer⟩

theorem reaches_iff
    (target : String) (visited pending : List String) :
    graph.reaches target visited pending = true ↔
      ∃ start ∈ pending, PathAround graph target visited start := by
  induction visited, pending using reaches.induct graph target with
  | case1 visited => simp [reaches]
  | case2 visited others =>
      rw [reaches, if_pos rfl]
      exact iff_of_true rfl ⟨target, List.mem_cons_self, .here⟩
  | case3 visited name others notTarget isVisited inductionHypothesis =>
      rw [reaches, if_neg notTarget, if_pos isVisited, inductionHypothesis]
      exact (exists_pathAround_of_visited notTarget isVisited).symm
  | case4 visited name others notTarget isNew inductionHypothesis =>
      rw [reaches, if_neg notTarget, if_neg isNew, inductionHypothesis]
      exact (exists_pathAround_of_new notTarget isNew fun _ => Iff.rfl).symm

theorem pathAround_nil_iff
    {target start : String} :
    PathAround graph target [] start ↔ Relation.ReflTransGen graph.Arrow start target := by
  constructor
  · intro path
    induction path with
    | here => exact .refl
    | step _ arrow _ inductionHypothesis => exact .head arrow inductionHypothesis
  · intro path
    induction path using Relation.ReflTransGen.head_induction_on with
    | refl => exact .here
    | head arrow _ inductionHypothesis => exact .step List.not_mem_nil arrow inductionHypothesis

/-- A name is an ancestor of another one if a path of at least one arrow leads there. -/
theorem isAncestor_iff
    (ancestor descendant : String) :
    graph.isAncestor ancestor descendant = true ↔
      Relation.TransGen graph.Arrow ancestor descendant := by
  rw [isAncestor, reaches_iff, Relation.TransGen.head'_iff]
  simp only [pathAround_nil_iff, Arrow]

/-! ## How the graph grows -/

theorem nodes_addNode
    (graph : Containment) (name : String) :
    (graph.addNode name).nodes =
      if name ∈ graph.nodes then graph.nodes else graph.nodes ++ [name] := by
  rw [addNode]
  split
  case isTrue => rfl
  case isFalse => simp [nodes]

theorem nodes_addArrow
    (graph : Containment) (parent child : String) :
    (graph.addArrow parent child).nodes = graph.nodes := by
  simp only [nodes, addArrow, List.map_map]
  refine List.map_congr_left fun pair _ => ?_
  simp only [Function.comp_apply]
  split <;> rfl

/-- A new name has no arrows. -/
theorem children_addNode
    (graph : Containment) (name other : String) :
    (graph.addNode name).children other = graph.children other := by
  rw [addNode]
  split
  case isTrue => rfl
  case isFalse =>
    simp only [children, List.lookup_append]
    cases graph.arrows.lookup other with
    | some found => rfl
    | none =>
        by_cases same : other == name <;> simp [List.lookup_cons, same]

theorem lookup_map
    (change : String → List String → List String) (arrows : List (String × List String))
    (name : String) :
    (arrows.map fun (other, children) => (other, change other children)).lookup name =
      (arrows.lookup name).map (change name) := by
  induction arrows with
  | nil => rfl
  | cons head tail inductionHypothesis =>
      rw [List.map_cons, List.lookup_cons, List.lookup_cons, inductionHypothesis]
      by_cases same : name = head.1
      · subst same
        simp
      · rw [beq_eq_false_iff_ne.mpr same]

theorem mem_nodes_iff
    {name : String} :
    name ∈ graph.nodes ↔ ∃ children, graph.arrows.lookup name = some children := by
  rw [← Option.isSome_iff_exists, List.lookup_isSome_iff, nodes, List.mem_map]
  refine exists_congr fun pair => and_congr_right fun _ => ?_
  rw [beq_iff_eq, eq_comm]

theorem arrow_addArrow
    {parent : String} (isNode : parent ∈ graph.nodes) (child name other : String) :
    (graph.addArrow parent child).Arrow name other ↔
      graph.Arrow name other ∨ (name = parent ∧ other = child) := by
  have change : (graph.addArrow parent child).arrows.lookup name =
      (graph.arrows.lookup name).map fun children =>
        if name = parent ∧ child ∉ children then children ++ [child] else children := by
    rw [← lookup_map (fun name children =>
      if name = parent ∧ child ∉ children then children ++ [child] else children)]
    congr 1
    refine List.map_congr_left fun pair _ => ?_
    split
    split <;> simp_all
  simp only [Arrow, children, change]
  cases found : graph.arrows.lookup name with
  | none =>
      have notParent : name ≠ parent := fun same => by
        obtain ⟨children, isFound⟩ := mem_nodes_iff.mp (same ▸ isNode)
        rw [isFound] at found
        cases found
      simp [notParent]
  | some children => grind

/-- Adding an arrow between two names adds just that arrow. -/
theorem arrow_addEdge
    (graph : Containment) (parent child name other : String) :
    (graph.addEdge parent child).Arrow name other ↔
      graph.Arrow name other ∨ (name = parent ∧ other = child) := by
  have isNode : parent ∈ ((graph.addNode child).addNode parent).nodes := by
    rw [nodes_addNode]
    split <;> simp [*]
  rw [addEdge, arrow_addArrow isNode]
  simp only [Arrow, children_addNode]

theorem nodup_addNode
    (distinct : graph.nodes.Nodup) (name : String) : (graph.addNode name).nodes.Nodup := by
  rw [nodes_addNode]
  split
  case isTrue => exact distinct
  case isFalse isNew =>
    refine List.nodup_append.mpr ⟨distinct, by simp, fun old isOld new isName same => ?_⟩
    exact isNew (List.mem_singleton.mp isName ▸ same ▸ isOld)

theorem nodup_addEdge
    (distinct : graph.nodes.Nodup) (parent child : String) :
    (graph.addEdge parent child).nodes.Nodup := by
  rw [addEdge, nodes_addArrow]
  exact nodup_addNode (nodup_addNode distinct child) parent

/-- New names come in behind those there are. -/
theorem isPrefix_addNode
    (graph : Containment) (name : String) : graph.nodes <+: (graph.addNode name).nodes := by
  rw [nodes_addNode]
  split
  case isTrue => exact List.prefix_rfl
  case isFalse => exact List.prefix_append _ _

theorem isPrefix_addEdge
    (graph : Containment) (parent child : String) :
    graph.nodes <+: (graph.addEdge parent child).nodes := by
  rw [addEdge, nodes_addArrow]
  exact (isPrefix_addNode graph child).trans (isPrefix_addNode _ parent)

/-- If all arrows lead to names that came in first, only those can be on a cycle. -/
theorem cyclicNodes_of_first
    {first : List String} (isFirst : first <+: graph.nodes) (distinct : graph.nodes.Nodup)
    (leadsToFirst : ∀ name other, graph.Arrow name other → other ∈ first) :
    graph.cyclicNodes = first.filter fun name => graph.isAncestor name name := by
  obtain ⟨rest, isRest⟩ := isFirst
  rw [← isRest] at distinct
  rw [cyclicNodes, ← isRest, List.filter_append]
  have noneInRest : rest.filter (fun name => graph.isAncestor name name) = [] := by
    refine List.filter_eq_nil_iff.mpr fun name inRest isCyclic => ?_
    obtain ⟨last, -, arrow⟩ := Relation.TransGen.tail'_iff.mp ((isAncestor_iff _ _).mp isCyclic)
    exact (List.nodup_append.mp distinct).2.2 name (leadsToFirst _ _ arrow) name inRest rfl
  rw [noneInRest, List.append_nil]

end StructLang.Containment
