import Mathlib.Data.List.Induction
import StructLang.Proofs.Containment

/-!
# Ancestors in graphs that were built

A graph is built by additions, of names and of arrows between names. Which names are ancestors of
which, and which ones are on a cycle, is then a matter of the arrows that were added.

The search for a path goes in rounds. In each round the next pending name is the target, which ends
the search, or was visited before, or is visited now, and the names to which arrows lead from it go
in front of the others in any order. It does not matter which order that is.

- `wellFounded_round` : no search goes on for ever.
- `ends_iff_isAncestor` : a search ends with the answer whether a name is an ancestor of the target.
- `nodes_ofAdditions`, `arrow_ofAdditions` : what is in a graph that was built.
- `ancestors_of_additions` : ancestors and cycles by the arrows that were added.
-/

namespace StructLang.Containment

variable {graph : Containment}

/-! ## Rounds of a search -/

/-- How far a search has come: the names that it has visited, and those that are pending, the next
one first. -/
structure Search where
  visited : List String
  pending : List String
  deriving DecidableEq, Repr

/-- A round of the search for a target in which the search does not end. -/
inductive Round (graph : Containment) (target : String) : Search → Search → Prop
  | passOver {name : String} {visited others : List String} :
      name ≠ target → name ∈ visited →
      Round graph target ⟨visited, name :: others⟩ ⟨visited, others⟩
  | visit {name : String} {visited others next : List String} :
      name ≠ target → name ∉ visited → (∀ child, child ∈ next ↔ graph.Arrow name child) →
      Round graph target ⟨visited, name :: others⟩ ⟨name :: visited, next ++ others⟩

/-- Whatever its rounds are, a search comes to an end, and its answer there is this one. -/
inductive Ends (graph : Containment) (target : String) : Search → Bool → Prop
  | found (visited others : List String) : Ends graph target ⟨visited, target :: others⟩ true
  | exhausted (visited : List String) : Ends graph target ⟨visited, []⟩ false
  | goesOn {search : Search} {answer : Bool} :
      (∃ later, Round graph target search later) →
      (∀ later, Round graph target search later → Ends graph target later answer) →
      Ends graph target search answer

theorem not_round_of_found
    {target : String} {visited others : List String} {later : Search} :
    ¬ Round graph target ⟨visited, target :: others⟩ later := by
  intro round
  cases round with
  | passOver notTarget | visit notTarget => exact notTarget rfl

theorem not_round_of_exhausted
    {target : String} {visited : List String} {later : Search} :
    ¬ Round graph target ⟨visited, []⟩ later := by
  intro round
  cases round

/-- A search does not have two answers. -/
theorem Ends.unique
    {target : String} {search : Search} {answer answerToo : Bool}
    (ends : Ends graph target search answer) (endsToo : Ends graph target search answerToo) :
    answer = answerToo := by
  induction ends with
  | found visited others =>
      cases endsToo with
      | found => rfl
      | goesOn isRound =>
          obtain ⟨later, round⟩ := isRound
          exact absurd round not_round_of_found
  | exhausted visited =>
      cases endsToo with
      | exhausted => rfl
      | goesOn isRound =>
          obtain ⟨later, round⟩ := isRound
          exact absurd round not_round_of_exhausted
  | goesOn isRound _ inductionHypothesis =>
      obtain ⟨later, round⟩ := isRound
      cases endsToo with
      | found => exact absurd round not_round_of_found
      | exhausted => exact absurd round not_round_of_exhausted
      | goesOn _ endsLater => exact inductionHypothesis later round (endsLater later round)

/-- How many names of the graph are not visited yet, and how many names are pending. -/
def Search.measure (graph : Containment) (search : Search) : Nat × Nat :=
  (countUnvisited graph.nodes search.visited, search.pending.length)

/-- A round makes the first of these numbers smaller, or the second and leaves the first. -/
theorem Round.measure_lt
    {target : String} {earlier later : Search} (round : Round graph target earlier later) :
    Prod.Lex (· < ·) (· < ·) (later.measure graph) (earlier.measure graph) := by
  cases round with
  | passOver _ _ => exact Prod.Lex.right _ (Nat.lt_succ_self _)
  | @visit name visited others next _ isNew areNext =>
      by_cases isNode : name ∈ graph.nodes
      · exact Prod.Lex.left _ _ (countUnvisited_cons_lt isNode isNew)
      · -- No arrow leads from a name that is not in the graph.
        have noneNext : next = [] := by
          apply List.eq_nil_iff_forall_not_mem.mpr
          intro child isNext
          have arrow := (areNext child).mp isNext
          rw [Arrow, children_eq_nil isNode] at arrow
          cases arrow
        rw [Search.measure, countUnvisited_cons_of_notMem isNode, noneNext]
        exact Prod.Lex.right _ (Nat.lt_succ_self _)

/-- There is no search of infinitely many rounds. -/
theorem wellFounded_round
    (graph : Containment) (target : String) :
    WellFounded fun later earlier => Round graph target earlier later :=
  Subrelation.wf Round.measure_lt <|
    InvImage.wf (Search.measure graph) (Prod.lex Nat.lt_wfRel Nat.lt_wfRel).wf

/-- A round leaves open the same question. -/
theorem Round.exists_pathAround_iff
    {target : String} {earlier later : Search} (round : Round graph target earlier later) :
    (∃ start ∈ earlier.pending, PathAround graph target earlier.visited start) ↔
      ∃ start ∈ later.pending, PathAround graph target later.visited start := by
  cases round with
  | passOver notTarget isVisited => exact exists_pathAround_of_visited notTarget isVisited
  | visit notTarget isNew areNext => exact exists_pathAround_of_new notTarget isNew areNext

/-- Unless the search is over there is a next round. -/
theorem exists_round
    {target name : String} (notTarget : name ≠ target) (visited others : List String) :
    ∃ later, Round graph target ⟨visited, name :: others⟩ later := by
  by_cases isVisited : name ∈ visited
  · exact ⟨_, .passOver notTarget isVisited⟩
  · have areNext : ∀ child, child ∈ graph.children name ↔ graph.Arrow name child :=
      fun _ => Iff.rfl
    exact ⟨_, .visit notTarget isVisited areNext⟩

/-- A search ends with the answer whether a path leads from a pending name to the target. -/
theorem ends_of_answer
    {target : String} {search : Search} {answer : Bool}
    (isAnswer : answer = true ↔
      ∃ start ∈ search.pending, PathAround graph target search.visited start) :
    Ends graph target search answer := by
  -- By induction on the rounds that are still to come, since each of them leaves `isAnswer` true.
  induction search using (wellFounded_round graph target).induction with
  | _ search inductionHypothesis =>
      obtain ⟨visited, pending⟩ := search
      cases pending with
      | nil =>
          have isFalse : answer = false := by
            apply Bool.eq_false_iff.mpr
            intro isTrue
            obtain ⟨start, isThere, -⟩ := isAnswer.mp isTrue
            cases isThere
          subst isFalse
          exact .exhausted visited
      | cons name others =>
          by_cases isTarget : name = target
          · subst isTarget
            have isTrue : answer = true := isAnswer.mpr ⟨name, List.mem_cons_self, .here⟩
            subst isTrue
            exact .found visited others
          · apply Ends.goesOn (exists_round isTarget visited others)
            intro later round
            exact inductionHypothesis later round (isAnswer.trans round.exists_pathAround_iff)

/-- Where the search starts with all names to which arrows lead from a name, its answer is whether
that is an ancestor of the target. -/
theorem ends_iff_isAncestor
    {ancestor descendant : String} {pending : List String}
    (arePending : ∀ child, child ∈ pending ↔ graph.Arrow ancestor child) (answer : Bool) :
    Ends graph descendant ⟨[], pending⟩ answer ↔
      answer = graph.isAncestor ancestor descendant := by
  have ends : Ends graph descendant ⟨[], pending⟩ (graph.isAncestor ancestor descendant) := by
    apply ends_of_answer
    rw [isAncestor, reaches_iff]
    apply exists_congr
    intro start
    rw [arePending start, Arrow]
  constructor
  · intro endsToo
    exact endsToo.unique ends
  · intro isAnswer
    rw [isAnswer]
    exact ends

/-! ## Building a graph -/

/-- What is added to a graph: a name, or an arrow and the names that it joins. -/
inductive Addition
  | node (name : String)
  | edge (parent child : String)
  deriving DecidableEq, Repr

/-- The names of an addition, in the order in which they come in if they are new. -/
def Addition.names : Addition → List String
  | node name => [name]
  | edge parent child => [child, parent]

/-- A graph with one thing more. -/
def add (graph : Containment) : Addition → Containment
  | .node name => graph.addNode name
  | .edge parent child => graph.addEdge parent child

/-- The graph of several additions, one after the other. -/
def ofAdditions (several : List Addition) : Containment := several.foldl add empty

/-- An arrow between two names was added. -/
def Added (several : List Addition) (parent child : String) : Prop :=
  Addition.edge parent child ∈ several

/-- The names of several additions, in the order in which they came in first. -/
def namesAdded (several : List Addition) : List String :=
  (several.flatMap Addition.names).eraseDups

theorem ofAdditions_concat
    (several : List Addition) (last : Addition) :
    ofAdditions (several ++ [last]) = (ofAdditions several).add last := by
  rw [ofAdditions, List.foldl_append]
  rfl

theorem eraseDups_concat
    (names : List String) (last : String) :
    (names ++ [last]).eraseDups =
      if last ∈ names then names.eraseDups else names.eraseDups ++ [last] := by
  rw [List.eraseDups_append]
  by_cases isOld : last ∈ names
  · simp [List.removeAll, isOld]
  · simp [List.removeAll, isOld, List.eraseDups_cons]

/-- A name that is added comes in last if it is new. -/
theorem nodes_addNode_of_eraseDups
    {names : List String} (areNodes : graph.nodes = names.eraseDups) (name : String) :
    (graph.addNode name).nodes = (names ++ [name]).eraseDups := by
  rw [nodes_addNode, eraseDups_concat, areNodes]
  simp only [List.mem_eraseDups]

theorem nodes_add
    {names : List String} (areNodes : graph.nodes = names.eraseDups) (addition : Addition) :
    (graph.add addition).nodes = (names ++ addition.names).eraseDups := by
  cases addition with
  | node name => exact nodes_addNode_of_eraseDups areNodes name
  | edge parent child =>
      have withChild := nodes_addNode_of_eraseDups areNodes child
      have withBoth := nodes_addNode_of_eraseDups withChild parent
      rw [List.append_assoc] at withBoth
      rw [add, addEdge, nodes_addArrow]
      exact withBoth

/-- The names of a graph stand in the order in which they came in first. -/
theorem nodes_ofAdditions
    (several : List Addition) : (ofAdditions several).nodes = namesAdded several := by
  induction several using List.reverseRecOn with
  | nil => rfl
  | append_singleton earlier last inductionHypothesis =>
      rw [ofAdditions_concat, nodes_add inductionHypothesis last, namesAdded, List.flatMap_append]
      simp

theorem arrow_add
    (graph : Containment) (addition : Addition) (parent child : String) :
    (graph.add addition).Arrow parent child ↔
      graph.Arrow parent child ∨ addition = .edge parent child := by
  cases addition with
  | node name => simp [add, Arrow, children_addNode]
  | edge first second => simp [add, arrow_addEdge, eq_comm]

/-- The arrows of a graph are those that were added. -/
theorem arrow_ofAdditions
    (several : List Addition) (parent child : String) :
    (ofAdditions several).Arrow parent child ↔ Added several parent child := by
  induction several using List.reverseRecOn with
  | nil => exact iff_of_false List.not_mem_nil List.not_mem_nil
  | append_singleton earlier last inductionHypothesis =>
      rw [ofAdditions_concat, arrow_add, inductionHypothesis, Added, Added, List.mem_append,
        List.mem_singleton, eq_comm (a := last)]

theorem nodup_ofAdditions
    (several : List Addition) : (ofAdditions several).nodes.Nodup := by
  induction several using List.reverseRecOn with
  | nil => exact List.nodup_nil
  | append_singleton earlier last inductionHypothesis =>
      rw [ofAdditions_concat]
      cases last with
      | node name => exact nodup_addNode inductionHypothesis name
      | edge parent child => exact nodup_addEdge inductionHypothesis parent child

/-- In a graph that was built, ancestors are those from which added arrows lead on. -/
theorem isAncestor_ofAdditions
    (several : List Addition) (ancestor descendant : String) :
    (ofAdditions several).isAncestor ancestor descendant = true ↔
      Relation.TransGen (Added several) ancestor descendant := by
  have sameArrows : (ofAdditions several).Arrow = Added several := by
    funext parent child
    exact propext (arrow_ofAdditions several parent child)
  rw [isAncestor_iff, sameArrows]

/-- A name from which added arrows lead on came in with one of them. -/
theorem mem_nodes_of_transGen
    {several : List Addition} {ancestor descendant : String}
    (path : Relation.TransGen (Added several) ancestor descendant) :
    ancestor ∈ (ofAdditions several).nodes := by
  obtain ⟨child, isAdded, -⟩ := Relation.TransGen.head'_iff.mp path
  rw [nodes_ofAdditions, namesAdded, List.mem_eraseDups, List.mem_flatMap]
  exact ⟨_, isAdded, by simp [Addition.names]⟩

theorem mem_cyclicNodes_ofAdditions
    (several : List Addition) (name : String) :
    name ∈ (ofAdditions several).cyclicNodes ↔ Relation.TransGen (Added several) name name := by
  rw [cyclicNodes, List.mem_filter, isAncestor_ofAdditions]
  exact and_iff_right_of_imp mem_nodes_of_transGen

/-- In a graph that was built by additions, a name is an ancestor of another one just if a path of
one added arrow or more leads there, and every search for such a path ends with that answer. The
cyclic names are those from which such a path leads back, each once, in the order in which they
came in first. -/
theorem ancestors_of_additions
    (several : List Addition) :
    (∀ ancestor descendant,
      ((ofAdditions several).isAncestor ancestor descendant = true ↔
        Relation.TransGen (Added several) ancestor descendant) ∧
      ∀ pending, (∀ child, child ∈ pending ↔ Added several ancestor child) → ∀ answer,
        (Ends (ofAdditions several) descendant ⟨[], pending⟩ answer ↔
          answer = (ofAdditions several).isAncestor ancestor descendant)) ∧
    (∀ name, name ∈ (ofAdditions several).cyclicNodes ↔
      Relation.TransGen (Added several) name name) ∧
    (ofAdditions several).cyclicNodes.Nodup ∧
    (ofAdditions several).cyclicNodes.Sublist (namesAdded several) := by
  refine ⟨?_, mem_cyclicNodes_ofAdditions several, (nodup_ofAdditions several).filter _, ?_⟩
  · intro ancestor descendant
    refine ⟨isAncestor_ofAdditions several ancestor descendant, ?_⟩
    intro pending arePending
    apply ends_iff_isAncestor
    intro child
    rw [arePending child, arrow_ofAdditions]
  · rw [← nodes_ofAdditions]
    exact List.filter_sublist

end StructLang.Containment
