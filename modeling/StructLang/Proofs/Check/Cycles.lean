import StructLang.Proofs.Check.Structs
import StructLang.Proofs.Containment

/-!
# What the containment graph holds and which cycles are found

The graph starts with the names of all declared structs, in order. The fields of structs add all
the arrows there are, and each of them leads to a declared struct. So a name on a cycle is that of
a declared struct, and the complaint about it is made at its declaration.
-/

namespace StructLang

open Check

/-! ## The graph that findings make -/

/-- The graph after some findings. -/
def Finding.addAllTo (graph : Containment) (findings : List Finding) : Containment :=
  findings.foldl Finding.addTo graph

namespace Finding

variable {graph : Containment}

theorem addAllTo_append
    (graph : Containment) (earlier later : List Finding) :
    addAllTo graph (earlier ++ later) = addAllTo (addAllTo graph earlier) later :=
  List.foldl_append

theorem arrow_addAllTo
    (graph : Containment) (findings : List Finding) (part whole : String) :
    (addAllTo graph findings).Arrow part whole ↔
      graph.Arrow part whole ∨ contained part whole ∈ findings := by
  induction findings generalizing graph with
  | nil => simp [addAllTo]
  | cons head tail inductionHypothesis =>
      have added : (head.addTo graph).Arrow part whole ↔
          graph.Arrow part whole ∨ contained part whole = head := by
        cases head with
        | containing name => simp [addTo, Containment.Arrow, Containment.children_addNode]
        | contained parent child => simp [addTo, Containment.arrow_addEdge]
        | _ => simp [addTo]
      rw [addAllTo, List.foldl_cons, ← addAllTo, inductionHypothesis, added, List.mem_cons,
        or_assoc]

theorem nodup_addAllTo
    (distinct : graph.nodes.Nodup) (findings : List Finding) :
    (addAllTo graph findings).nodes.Nodup := by
  induction findings generalizing graph with
  | nil => exact distinct
  | cons head tail inductionHypothesis =>
      refine inductionHypothesis ?_
      cases head with
      | containing name => exact Containment.nodup_addNode distinct name
      | contained parent child => exact Containment.nodup_addEdge distinct parent child
      | _ => exact distinct

theorem isPrefix_addAllTo
    (graph : Containment) (findings : List Finding) :
    graph.nodes <+: (addAllTo graph findings).nodes := by
  induction findings generalizing graph with
  | nil => exact List.prefix_rfl
  | cons head tail inductionHypothesis =>
      refine List.IsPrefix.trans ?_ (inductionHypothesis (head.addTo graph))
      cases head with
      | containing name => exact Containment.isPrefix_addNode graph name
      | contained parent child => exact Containment.isPrefix_addEdge graph parent child
      | _ => exact List.prefix_rfl

end Finding

/-! ## Declarations bring in the names of structs -/

theorem addAllTo_namingFindings
    (graph : Containment) (kind : DiagnosticKind) (address : Address) (position : Position)
    (naming : Naming) (name : String) :
    Finding.addAllTo graph (namingFindings kind address position naming name) = graph := by
  rw [namingFindings]
  split <;> rfl

/-- After the declarations of structs the graph has their names, in order. -/
theorem StructDecl.nodes_declareFindings
    (graph : Containment) (naming : Naming) (index : Nat) (structs : List StructDecl)
    (isSame : graph.nodes = naming.taken)
    (distinct : (naming.afterAll (structs.map (·.name))).taken.Nodup) :
    (Finding.addAllTo graph (declareFindings naming index structs)).nodes =
      (naming.afterAll (structs.map (·.name))).taken := by
  induction structs generalizing graph naming index with
  | nil => exact isSame
  | cons head tail inductionHypothesis =>
      rw [List.map_cons, Naming.afterAll_cons] at distinct ⊢
      obtain ⟨new, isNew, -⟩ :=
        (naming.next numbered head.name).prefix_afterAll (tail.map (·.name))
      have nextDistinct : (naming.next numbered head.name).taken.Nodup := by
        rw [isNew] at distinct
        exact (List.nodup_append.mp distinct).1
      have isFree : naming.known numbered head.name ∉ naming.taken := fun isTaken =>
        (List.nodup_append.mp nextDistinct).2.2 _ isTaken _ (List.mem_singleton_self _) rfl
      rw [declareFindings, Finding.addAllTo_append, addAllTo_namingFindings]
      refine inductionHypothesis (graph.addNode (naming.known numbered head.name))
        (naming.next numbered head.name) (index + 1) ?_ distinct
      rw [Containment.nodes_addNode, isSame, if_neg isFree]
      rfl

/-! ## Fields are what is contained -/

section Contained

variable {entries : List Entry} {container part whole : String} {here : Region}
  {naming : Naming} {address : Address} {index : Nat}

theorem notMem_of_notes
    {findings : List Finding} (areNotes : ∀ finding ∈ findings, finding.isNote) :
    .contained part whole ∉ findings :=
  fun member => nomatch areNotes _ member

theorem VariableDecl.contained_mem_fieldFindings
    (field : VariableDecl) :
    .contained part whole ∈ field.fieldFindings entries container here address ↔
      whole = container ∧ field.type = .struct part := by
  have noNote : .contained part whole ∉ field.findings entries here address :=
    notMem_of_notes (Stmt.isNote_declaration field)
  rw [fieldFindings, List.mem_append, or_iff_left noNote]
  split
  case h_1 found isFound => simp [isFound, and_comm, eq_comm]
  case h_2 noStruct => simpa using fun _ => noStruct part

theorem VariableDecl.contained_mem_fieldFindingsOf
    (fields : List VariableDecl) :
    .contained part whole ∈ fieldFindingsOf entries container here address index fields ↔
      whole = container ∧ ∃ field ∈ fields, field.type = .struct part := by
  induction fields generalizing here index with
  | nil => simp [fieldFindingsOf]
  | cons head tail inductionHypothesis =>
      rw [fieldFindingsOf, List.mem_append, contained_mem_fieldFindings, inductionHypothesis,
        ← and_or_left]
      simp only [List.mem_cons, exists_eq_or_imp]

theorem Stmt.contained_mem_declareFindings
    (member : Stmt) :
    .contained part whole ∈ member.declareFindings entries container here naming address ↔
      whole = container ∧ ∃ field ∈ member.fields, field.type = .struct part := by
  cases member with
  | declare declared => exact VariableDecl.contained_mem_fieldFindingsOf declared
  | accessor name type parameters field =>
      rw [declareFindings, List.mem_append, VariableDecl.contained_mem_fieldFindings]
      have noRenaming : .contained part whole ∉ (if name ∈ naming.taken then
          [Finding.renamed address (suffixed name (naming.made + 1))] else []) := by
        split <;> simp
      rw [or_iff_left noRenaming]
      simp [Stmt.fields]
  | _ => simp [declareFindings, Stmt.fields]

theorem Stmt.contained_mem_declareFindingsOf
    (members : List Stmt) :
    .contained part whole ∈
        declareFindingsOf entries container here naming address index members ↔
      whole = container ∧ ∃ field ∈ members.flatMap Stmt.fields, field.type = .struct part := by
  induction members generalizing here naming index with
  | nil => simp [declareFindingsOf]
  | cons head tail inductionHypothesis =>
      rw [declareFindingsOf, List.mem_append, contained_mem_declareFindings,
        inductionHypothesis, List.flatMap_cons, ← and_or_left]
      simp only [List.mem_append, or_and_right, exists_or]

theorem contained_notMem_namingFindings
    {kind : DiagnosticKind} {position : Position} {name : String} :
    .contained part whole ∉ namingFindings kind address position naming name := by
  rw [namingFindings]
  split <;> simp [Finding.complaint]

theorem StructDecl.contained_notMem_declareFindings
    (structs : List StructDecl) :
    .contained part whole ∉ declareFindings naming index structs := by
  induction structs generalizing naming index with
  | nil => exact List.not_mem_nil
  | cons head tail inductionHypothesis =>
      rw [declareFindings, List.mem_append, List.mem_cons, not_or, not_or]
      exact ⟨contained_notMem_namingFindings, Finding.noConfusion, inductionHypothesis⟩

theorem FunctionDecl.contained_notMem_declareFindings
    {structs : List String} (functions : List FunctionDecl) :
    .contained part whole ∉ declareFindings structs naming index functions := by
  induction functions generalizing naming index with
  | nil => exact List.not_mem_nil
  | cons head tail inductionHypothesis =>
      rw [declareFindings, List.mem_append, List.mem_append, not_or, not_or]
      refine ⟨?_, contained_notMem_namingFindings, inductionHypothesis⟩
      split <;> simp [Finding.complaint]

/-- The fields of structs make all the arrows. -/
theorem StructDecl.contained_mem_checkFindingsOf
    {made : Nat} (structs : List (String × StructDecl)) :
    .contained part whole ∈ checkFindingsOf entries made index structs ↔
      ∃ pair ∈ structs, pair.1 = whole ∧ ∃ field ∈ pair.2.fields, field.type = .struct part := by
  induction structs generalizing made index with
  | nil => simp [checkFindingsOf]
  | cons head tail inductionHypothesis =>
      have noNote : .contained part whole ∉
          Stmt.bindFindingsOf entries (0 :: Program.structAddress index) 0 head.2.members :=
        notMem_of_notes (Stmt.isNote_bindFindingsOf head.2.members)
      rw [checkFindingsOf, List.mem_append, checkFindings, List.mem_append,
        or_iff_left noNote, Stmt.contained_mem_declareFindingsOf, inductionHypothesis,
        eq_comm (a := whole)]
      simp only [List.mem_cons, exists_eq_or_imp, fields]

end Contained

/-! ## Cycles are complained about at their structs -/

/-- Where structs stand, with the names under which they are known. -/
def StructDecl.places (structs : List (String × StructDecl)) :
    List (String × Address × Position) :=
  structs.mapIdx fun index (name, declaration) =>
    (name, Program.structAddress index, declaration.position)

/-- What is found at structs that contain themselves. -/
def cycleFindings (graph : Containment) (places : List (String × Address × Position)) :
    List Finding :=
  (places.filter fun place => graph.isAncestor place.1 place.1).map
    fun (name, address, position) => .complaint .cyclicDependency address position [name]

theorem isNote_cycleFindings
    {graph : Containment} {places : List (String × Address × Position)} :
    ∀ finding ∈ cycleFindings graph places, finding.isNote := by
  intro finding member
  obtain ⟨place, -, rfl⟩ := List.mem_map.mp member
  rfl

theorem StructDecl.fst_places
    (structs : List (String × StructDecl)) :
    (places structs).map Prod.fst = structs.map Prod.fst := by
  refine List.ext_getElem (by simp [places]) fun index _ _ => ?_
  simp [places]

/-- Among distinct keys each one leads to what stands with it. -/
theorem lookup_of_mem
    {key alpha : Type} [BEq key] [LawfulBEq key] {table : List (key × alpha)} {pair : key × alpha}
    (distinct : (table.map Prod.fst).Nodup) (member : pair ∈ table) :
    table.lookup pair.1 = some pair.2 := by
  obtain ⟨before, after, rfl⟩ := List.append_of_mem member
  refine List.lookup_eq_some_iff.mpr ⟨before, after, rfl, fun other isBefore => ?_⟩
  rw [List.map_append] at distinct
  have different := (List.nodup_append.mp distinct).2.2 other.1
    (List.mem_map_of_mem isBefore) pair.1 (List.mem_map_of_mem List.mem_cons_self)
  exact bne_iff_ne.mpr different.symm

/-- Steps that only find something, one after the other. -/
theorem ends_forM
    {alpha : Type} {mayFail : Prop} {step : alpha → Check Unit} {finds : alpha → Finding}
    (items : List alpha)
    (ends : ∀ item ∈ items, ∀ state, Ends mayFail (step item) state fun _ final =>
      final = state.notingAll [finds item])
    (state : CheckState) :
    Ends mayFail (items.forM step) state fun _ final =>
      final = state.notingAll (items.map finds) := by
  induction items generalizing state with
  | nil => exact Ends.pure rfl
  | cons head tail inductionHypothesis =>
      rw [List.forM_eq_forM, List.forM_cons]
      refine (ends head List.mem_cons_self state).bind ?_
      rintro _ _ rfl
      rw [← List.forM_eq_forM]
      exact inductionHypothesis (fun item inTail => ends item (.tail _ inTail)) _

theorem ends_checkContainment
    {mayFail : Prop} {state : CheckState} {program : Program}
    (structs : List (String × StructDecl)) (isStructs : structs.map Prod.snd = program.structs)
    (named : ∀ index pair, structs[index]? = some pair →
      state.nameAt (Program.structAddress index) pair.2.name = pair.1)
    (distinct : (structs.map Prod.fst).Nodup)
    (isFirst : structs.map Prod.fst <+: state.containment.nodes)
    (distinctNodes : state.containment.nodes.Nodup)
    (leadsToFirst : ∀ name other, state.containment.Arrow name other →
      other ∈ structs.map Prod.fst) :
    Ends mayFail program.checkContainment state fun _ final =>
      final = state.notingAll (cycleFindings state.containment (StructDecl.places structs)) := by
  have isPlaces : (program.structs.mapIdx fun index declaration =>
      (state.nameAt (Program.structAddress index) declaration.name,
        Program.structAddress index, declaration.position)) = StructDecl.places structs := by
    rw [← isStructs]
    refine List.ext_getElem (by simp [StructDecl.places]) fun index isThere _ => ?_
    have isPair := List.getElem?_eq_getElem (l := structs) (i := index) (by simpa using isThere)
    simp [StructDecl.places, named index _ isPair]
  have distinctPlaces : ((StructDecl.places structs).reverse.map Prod.fst).Nodup := by
    rw [List.map_reverse, StructDecl.fst_places]
    exact List.pairwise_reverse.mpr (distinct.imp Ne.symm)
  refine Ends.afterGet ?_
  rw [Containment.cyclicNodes_of_first isFirst distinctNodes leadsToFirst,
    ← StructDecl.fst_places, List.filter_map, List.forM_eq_forM, List.forM_map,
    ← List.forM_eq_forM]
  refine ends_forM _ (fun place member reached => ?_) state
  have isPlace := List.mem_reverse.mpr (List.mem_filter.mp member).1
  have isKnown : program.structKnownAs? state place.1 = some place.2 := by
    rw [Program.structKnownAs?, isPlaces]
    exact lookup_of_mem distinctPlaces isPlace
  rw [isKnown]
  exact ends_report rfl

end StructLang
