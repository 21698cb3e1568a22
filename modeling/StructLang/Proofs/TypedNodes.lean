import Mathlib.Data.List.Perm.Subperm
import StructLang.Program.Findings
import StructLang.Proofs.Absorption

/-!
# Which nodes have a type

A check gives a type to the expressions and assignments of all bodies, those of functions that
share a name included, whatever is wrong with them or around them. It gives each of them one type
once, and nothing else has a type.

- `Program.bodyNodes` : what stands in the bodies of functions and in the main body.
- `Outcome.recorded_iff` : the addresses in the table of types.
- `types_exactly` : the table of types and the nodes of the program.
-/

namespace StructLang

/-- Whether nodes of a kind have a type where they are checked. -/
def NodeKind.isTyped (kind : NodeKind) : Bool := kind.isExpression || kind == .assignStmt

theorem NodeKind.not_isDeclaration_of_isTyped
    {kind : NodeKind} (isTyped : kind.isTyped) : ¬ kind.isDeclaration := by
  rcases Bool.or_eq_true_iff.mp isTyped with isExpression | isAssignment
  · exact not_isDeclaration_of_isExpression isExpression
  · rw [eq_of_beq isAssignment]
    exact Bool.false_ne_true

/-! ## Types that are found -/

theorem Finding.filterMap_typing?_of_declaresAt
    {kinds : List DiagnosticKind} {isAt : Address → Prop} {findings : List Finding}
    (declare : ∀ finding ∈ findings, finding.DeclaresAt kinds isAt) :
    findings.filterMap typing? = [] := by
  refine List.filterMap_eq_nil_iff.mpr fun finding member => ?_
  have declares := declare finding member
  cases finding <;> first | rfl | exact declares.elim

theorem CheckState.mem_types_of_typeAt?
    {state : CheckState} {address : Address} {type : Ty}
    (isType : state.typeAt? address = some type) : (address, type) ∈ state.types := by
  obtain ⟨before, after, isTable, -⟩ := List.lookup_eq_some_iff.mp isType
  exact isTable ▸ List.mem_append_right before List.mem_cons_self

/-- At most one type is found in a visit. -/
theorem Visit.length_typings_le
    (visit : Visit) : (visit.findings.filterMap Finding.typing?).length ≤ 1 := by
  have ofSettled {address : Address} {position : Position} {verdict : Verdict} :
      ((Finding.settled address position verdict).filterMap Finding.typing?).length ≤ 1 := by
    cases verdict <;> exact Nat.le_refl 1
  obtain ⟨signature, regions, address, subject⟩ := visit
  cases subject with
  | expression expression => exact ofSettled
  | statement statement =>
      dsimp only [findings]
      obtain ⟨_, _, _, rfl⟩ | isNothing | ⟨kind, isOne⟩ :=
        statement.ownFindings_cases (signature.around regions) address
      · exact ofSettled
      · exact isNothing ▸ Nat.zero_le 1
      · exact isOne ▸ Nat.zero_le 1
  | declaration declaration =>
      rw [findings, Finding.filterMap_typing?_of_declaresAt declaration.declaresAt_findings]
      exact Nat.zero_le 1

/-! ## Nodes of bodies -/

namespace Program

variable {program : Program} {node : Node}

/-- An assignment stands at an address in a body. -/
def HasAssignment (program : Program) (address : Address) : Prop :=
  ∃ target value position, program.HasStmt address (.assign target value position)

/-- Every node of a statement of a body that is an assignment is one of the body. -/
theorem Stands.assigns_of_mem_nodes
    {number : Nat} {address : Address} {here : Region} {outer : List Region} {statement : Stmt}
    (stands : program.Stands number address here outer statement) (written : program.Written)
    (isNode : node ∈ statement.nodes address) (isAssignment : node.kind = .assignStmt) :
    program.HasAssignment node.address := by
  rcases stands.cases_of_mem_nodes written isNode with
    ⟨inner, hasStmt, isKind⟩ | ⟨_, _, _, _, _, -, isVariable⟩ | ⟨regions, sees⟩
  · rw [isAssignment] at isKind
    have isWritten := hasStmt.written written
    cases inner with
    | assign target value position => exact ⟨target, value, position, hasStmt⟩
    | stray => exact isWritten.elim nofun False.elim
    | _ => cases isKind
  · rw [VariableDecl.kind_of_mem_nodesOf isVariable] at isAssignment
    cases isAssignment
  · have isExpression := sees.isExpression written
    rw [isAssignment] at isExpression
    cases isExpression

theorem sublist_flatten_mapIdx
    {alpha beta : Type} {parts wholes : Nat → alpha → List beta} (owners : List alpha)
    (areParts : ∀ index owner, (parts index owner).Sublist (wholes index owner)) :
    (owners.mapIdx parts).flatten.Sublist (owners.mapIdx wholes).flatten := by
  induction owners generalizing parts wholes with
  | nil => exact List.Sublist.refl _
  | cons head tail inductionHypothesis =>
      rw [List.mapIdx_cons, List.mapIdx_cons, List.flatten_cons, List.flatten_cons]
      exact (areParts 0 head).append (inductionHypothesis fun index => areParts (index + 1))

/-- The nodes of bodies come in the order of the program. -/
theorem bodyNodes_sublist
    (program : Program) : program.bodyNodes.Sublist program.nodes := by
  have ofFunctions : (program.functions.mapIdx fun index declaration =>
      declaration.body.nodes (1 :: functionAddress index)).flatten.Sublist
        (program.functions.mapIdx fun index declaration =>
          declaration.nodes (functionAddress index)).flatten :=
    sublist_flatten_mapIdx program.functions fun index declaration =>
      .cons _ (List.sublist_append_right _ _)
  have ofMain : ((program.main?.map fun declaration =>
      declaration.body.nodes (0 :: mainAddress)).getD []).Sublist
        ((program.main?.map (·.nodes mainAddress)).getD []) := by
    cases program.main? with
    | none => exact List.Sublist.refl _
    | some declaration => exact List.sublist_cons_self _ _
  rw [nodes, List.append_assoc]
  exact ((ofFunctions.append ofMain).trans (List.sublist_append_right _ _)).cons _

/-- Nothing in a body is below a struct. -/
theorem address_of_mem_bodyNodes
    (isNode : node ∈ program.bodyNodes) : ¬ [0] <:+ node.address := by
  rcases List.mem_append.mp isNode with inFunction | inMain
  · obtain ⟨part, isPart, inPart⟩ := List.mem_flatten.mp inFunction
    obtain ⟨index, isThere, rfl⟩ := List.mem_mapIdx.mp isPart
    refine not_below_other Nat.one_ne_zero ?_
    exact (List.suffix_append [1, index] [1]).trans
      ((program.functions[index].body.apart_nodes _).below node inPart)
  · cases isMain : program.main? with
    | none =>
        rw [isMain] at inMain
        cases inMain
    | some declaration =>
        rw [isMain] at inMain
        refine not_below_other (Nat.succ_ne_zero 1) ?_
        exact (List.suffix_cons 0 [2]).trans
          ((declaration.body.apart_nodes _).below node inMain)

/-! ## The table of types -/

namespace Outcome

variable {state : CheckState} (outcome : program.Outcome state)

include outcome

/-- An assignment of a body has a type. -/
theorem typed_of_hasAssignment
    {address : Address} (hasAssignment : program.HasAssignment address) :
    (state.typeAt? address).isSome := by
  obtain ⟨target, value, position, hasStmt⟩ := hasAssignment
  obtain ⟨around, isFound, -⟩ := outcome.seen_of_hasStmt hasStmt (List.cons_ne_nil _ _)
  rw [(outcome.bears_settled isFound).1]
  rfl

/-- Every expression and every assignment of a body has a type. -/
theorem typed_of_mem_bodyNodes
    (written : program.Written) (isNode : node ∈ program.bodyNodes) (isTyped : node.kind.isTyped) :
    (state.typeAt? node.address).isSome := by
  rcases Bool.or_eq_true_iff.mp isTyped with isExpression | isAssignment
  · obtain ⟨number, regions, expression, sees, -⟩ := exists_seesNode written
      (program.bodyNodes_sublist.subset isNode) isExpression (address_of_mem_bodyNodes isNode)
    obtain ⟨-, -, bears, -⟩ := outcome.seen_of_sees sees
    rw [bears.1]
    rfl
  · obtain ⟨number, address, statement, stands, inBody⟩ := exists_body_of_mem_bodyNodes isNode
    exact outcome.typed_of_hasAssignment
      (stands.assigns_of_mem_nodes written inBody (eq_of_beq isAssignment))

/-- What has a type is an expression or an assignment of a body. -/
theorem exists_bodyNode_of_recorded
    {address : Address} {type : Ty} (isRecorded : (address, type) ∈ state.types) :
    ∃ node ∈ program.bodyNodes, node.kind.isTyped ∧ node.address = address := by
  obtain ⟨visit, isVisit, isOwn⟩ := outcome.exists_visit_of_recorded isRecorded
  obtain rfl := Option.some.inj (visit.about?_findings _ isOwn)
  obtain ⟨-, notInStruct⟩ := address_of_mem_visits isVisit
  have isTypedNode : ∃ node ∈ program.nodes, node.address = visit.address ∧
      node.kind.isTyped := by
    cases outcome.typed_of_mem_types isRecorded with
    | expression sees =>
        obtain ⟨node, isNode, isPlace, isExpression⟩ := outcome.exists_node_of_sees sees
        exact ⟨node, isNode, isPlace, Bool.or_eq_true_iff.mpr (.inl isExpression)⟩
    | assignment stands =>
        obtain ⟨node, isNode, isLabel⟩ :=
          label_of_mem_visits (stands.visits_operands (List.cons_ne_nil _ _)).1
        obtain ⟨isPlace, isKind, -⟩ := Node.eq_of_label isLabel
        exact ⟨node, isNode, isPlace, isKind ▸ rfl⟩
  obtain ⟨node, isNode, isPlace, isTyped⟩ := isTypedNode
  exact ⟨node, mem_bodyNodes isNode (NodeKind.not_isDeclaration_of_isTyped isTyped)
    (isPlace ▸ notInStruct), isTyped, isPlace⟩

/-- The addresses in the table are those of the expressions and assignments of bodies. -/
theorem recorded_iff
    (written : program.Written) (address : Address) :
    address ∈ state.types.map Prod.fst ↔
      ∃ node ∈ program.bodyNodes, node.kind.isTyped ∧ node.address = address := by
  constructor
  · intro isRecorded
    obtain ⟨pair, isPair, rfl⟩ := List.mem_map.mp isRecorded
    exact outcome.exists_bodyNode_of_recorded isPair
  · rintro ⟨node, isNode, isTyped, rfl⟩
    have hasType := outcome.typed_of_mem_bodyNodes written isNode isTyped
    obtain ⟨type, isType⟩ := Option.isSome_iff_exists.mp hasType
    exact List.mem_map_of_mem (CheckState.mem_types_of_typeAt? isType)

/-- No address is in the table twice: each is that of one visit, which gives one type. -/
theorem nodup_recorded : (state.types.map Prod.fst).Nodup := by
  refine List.nodup_iff_count_le_one.mpr fun address => ?_
  by_cases isRecorded : address ∈ state.types.map Prod.fst
  · obtain ⟨⟨_, type⟩, isPair, rfl⟩ := List.mem_map.mp isRecorded
    obtain ⟨visit, isVisit, isOwn⟩ := outcome.exists_visit_of_recorded isPair
    obtain rfl := Option.some.inj (visit.about?_findings _ isOwn)
    have atMost : (state.types.filter (·.1 = visit.address)).length ≤ 1 := by
      rw [outcome.types_eq, List.filter_reverse, List.length_reverse, Finding.filter_typings,
        allAbout_findings isVisit]
      exact visit.length_typings_le
    rw [List.count, List.countP_map, List.countP_eq_length_filter]
    simpa only [Function.comp_def, beq_eq_decide] using atMost
  · rw [List.count_eq_zero_of_not_mem isRecorded]
    exact Nat.zero_le 1

/-- The nodes that have a type, in the order of the program, are those of the expressions and
assignments of bodies. -/
theorem typedNodes_eq
    (written : program.Written) :
    (program.typedNodes state).map Prod.fst = program.bodyNodes.filter (·.kind.isTyped) := by
  have isFilter : (program.typedNodes state).map Prod.fst =
      program.nodes.filter fun node => (state.typeAt? node.address).isSome := by
    rw [typedNodes, List.map_filterMap, ← List.filterMap_eq_filter]
    congr
    funext node
    cases isType : state.typeAt? node.address <;> simp [Option.guard, isType]
  have haveTypes : ∀ node ∈ program.bodyNodes.filter (·.kind.isTyped),
      (state.typeAt? node.address).isSome := fun node isNode =>
    outcome.typed_of_mem_bodyNodes written (List.mem_filter.mp isNode).1
      (List.mem_filter.mp isNode).2
  have isPart : (program.bodyNodes.filter (·.kind.isTyped)).Sublist
      (program.nodes.filter fun node => (state.typeAt? node.address).isSome) := by
    rw [← List.filter_eq_self.mpr haveTypes]
    exact (List.filter_sublist.trans program.bodyNodes_sublist).filter _
  have isWhole : program.nodes.filter (fun node => (state.typeAt? node.address).isSome) ⊆
      program.bodyNodes.filter (·.kind.isTyped) := by
    intro node isTypedNode
    obtain ⟨isNode, hasType⟩ := List.mem_filter.mp isTypedNode
    obtain ⟨type, isType⟩ := Option.isSome_iff_exists.mp hasType
    obtain ⟨other, isOther, isTyped, same⟩ :=
      outcome.exists_bodyNode_of_recorded (CheckState.mem_types_of_typeAt? isType)
    obtain rfl := program.apart_nodes.eq_of_same isNode
      (program.bodyNodes_sublist.subset isOther) same.symm
    exact List.mem_filter.mpr ⟨isOther, isTyped⟩
  have distinct : (program.nodes.filter fun node => (state.typeAt? node.address).isSome).Nodup :=
    program.apart_nodes.distinct.of_map.filter _
  rw [isFilter]
  exact (isPart.eq_of_length_le (distinct.subperm isWhole).length_le).symm

end Outcome

/-- The check of a program from a source text completes. Its table of types has exactly the
addresses of the expressions and assignments that stand in bodies, each of them once. So the nodes
of the program that have a type are these, and none below a struct, no declaration and no other
statement. -/
theorem types_exactly
    {source : String} {program : Program} (isRead : Program.ofSource source = .ok program) :
    ∃ state, program.checked = .ok () state ∧
      (state.types.map Prod.fst).Perm
        ((program.bodyNodes.filter (·.kind.isTyped)).map Node.address) ∧
      (program.typedNodes state).map Prod.fst = program.bodyNodes.filter (·.kind.isTyped) := by
  have written := written_of_ofSource isRead
  obtain ⟨state, isChecked⟩ := checked_of_written written
  have outcome := outcome_of_checked isChecked
  have distinct : ((program.bodyNodes.filter (·.kind.isTyped)).map Node.address).Nodup :=
    ((List.filter_sublist.trans program.bodyNodes_sublist).map Node.address).nodup
      program.apart_nodes.distinct
  refine ⟨state, isChecked, ?_, outcome.typedNodes_eq written⟩
  refine (List.perm_ext_iff_of_nodup outcome.nodup_recorded distinct).mpr fun address => ?_
  rw [outcome.recorded_iff written]
  simp [and_assoc]

/-! ### An assignment in the block of an accessor, and functions of one name -/

/-- A struct with an accessor, two functions of one name whose bodies name unknown variables, and a
main body that does so too. -/
def misnamesSource : String :=
  "struct S\x7bint x()\x7bset\x7bx=1;\x7dget\x7b\x7d\x7d\x7dfunc f()int\x7breturn a;\x7d" ++
    "func f()int\x7breturn b;\x7dmain\x7bc=2;\x7d"

/-- The tokens of this text. -/
def misnamesTokens : List Token :=
  [⟨.structWord, "struct", ⟨1, 1⟩⟩, ⟨.identifier, "S", ⟨1, 8⟩⟩, ⟨.leftBrace, "\x7b", ⟨1, 9⟩⟩,
    ⟨.intWord, "int", ⟨1, 10⟩⟩, ⟨.identifier, "x", ⟨1, 14⟩⟩, ⟨.leftParen, "(", ⟨1, 15⟩⟩,
    ⟨.rightParen, ")", ⟨1, 16⟩⟩, ⟨.leftBrace, "\x7b", ⟨1, 17⟩⟩, ⟨.setWord, "set", ⟨1, 18⟩⟩,
    ⟨.leftBrace, "\x7b", ⟨1, 21⟩⟩, ⟨.identifier, "x", ⟨1, 22⟩⟩, ⟨.assign, "=", ⟨1, 23⟩⟩,
    ⟨.integer, "1", ⟨1, 24⟩⟩, ⟨.semicolon, ";", ⟨1, 25⟩⟩, ⟨.rightBrace, "\x7d", ⟨1, 26⟩⟩,
    ⟨.getWord, "get", ⟨1, 27⟩⟩, ⟨.leftBrace, "\x7b", ⟨1, 30⟩⟩, ⟨.rightBrace, "\x7d", ⟨1, 31⟩⟩,
    ⟨.rightBrace, "\x7d", ⟨1, 32⟩⟩, ⟨.rightBrace, "\x7d", ⟨1, 33⟩⟩, ⟨.funcWord, "func", ⟨1, 34⟩⟩,
    ⟨.identifier, "f", ⟨1, 39⟩⟩, ⟨.leftParen, "(", ⟨1, 40⟩⟩, ⟨.rightParen, ")", ⟨1, 41⟩⟩,
    ⟨.intWord, "int", ⟨1, 42⟩⟩, ⟨.leftBrace, "\x7b", ⟨1, 45⟩⟩, ⟨.returnWord, "return", ⟨1, 46⟩⟩,
    ⟨.identifier, "a", ⟨1, 53⟩⟩, ⟨.semicolon, ";", ⟨1, 54⟩⟩, ⟨.rightBrace, "\x7d", ⟨1, 55⟩⟩,
    ⟨.funcWord, "func", ⟨1, 56⟩⟩, ⟨.identifier, "f", ⟨1, 61⟩⟩, ⟨.leftParen, "(", ⟨1, 62⟩⟩,
    ⟨.rightParen, ")", ⟨1, 63⟩⟩, ⟨.intWord, "int", ⟨1, 64⟩⟩, ⟨.leftBrace, "\x7b", ⟨1, 67⟩⟩,
    ⟨.returnWord, "return", ⟨1, 68⟩⟩, ⟨.identifier, "b", ⟨1, 75⟩⟩, ⟨.semicolon, ";", ⟨1, 76⟩⟩,
    ⟨.rightBrace, "\x7d", ⟨1, 77⟩⟩, ⟨.mainWord, "main", ⟨1, 78⟩⟩, ⟨.leftBrace, "\x7b", ⟨1, 82⟩⟩,
    ⟨.identifier, "c", ⟨1, 83⟩⟩, ⟨.assign, "=", ⟨1, 84⟩⟩, ⟨.integer, "2", ⟨1, 85⟩⟩,
    ⟨.semicolon, ";", ⟨1, 86⟩⟩, ⟨.rightBrace, "\x7d", ⟨1, 87⟩⟩]

/-- The program that these tokens are. -/
def misnames : Program :=
  ⟨[⟨"S", [.accessor "x" .int [] ⟨"x", .int, ⟨1, 14⟩⟩
      (.block [.assign (.name "x" ⟨1, 22⟩) (.integer 1 ⟨1, 24⟩) ⟨1, 22⟩] ⟨1, 21⟩)
      (.block [] ⟨1, 30⟩) ⟨1, 10⟩], ⟨1, 9⟩, ⟨1, 1⟩⟩],
    [⟨"f", .int, [], .block [.giveBack (some (.name "a" ⟨1, 53⟩)) ⟨1, 46⟩] ⟨1, 45⟩, ⟨1, 34⟩⟩,
      ⟨"f", .int, [], .block [.giveBack (some (.name "b" ⟨1, 75⟩)) ⟨1, 68⟩] ⟨1, 67⟩, ⟨1, 56⟩⟩],
    some ⟨.block [.assign (.name "c" ⟨1, 83⟩) (.integer 2 ⟨1, 85⟩) ⟨1, 83⟩] ⟨1, 82⟩, ⟨1, 78⟩⟩,
    ⟨1, 1⟩⟩

theorem scan_misnames :
    scan misnamesSource = .ok (misnamesTokens ++ [⟨.finish, "", ⟨1, 88⟩⟩]) :=
  Scan.scan_of_scansTo (Scan.ofList_append_eq rfl rfl) (by decide +kernel)

theorem derives_misnames : Grammar.DerivesProgram misnamesTokens misnames := by
  have setBlock : Grammar.DerivesBlock (misnamesTokens.drop 9) _ (misnamesTokens.drop 15) :=
    .block rfl (.more (.assign (.ofChained (.primary (.name rfl))) rfl
      (.ofChained (.primary (.integer rfl rfl))) rfl) .none) rfl
  have accessor : Grammar.DerivesMember (misnamesTokens.drop 3) _ (misnamesTokens.drop 19) :=
    .accessor (.int rfl) rfl (.none rfl rfl) rfl
      (.setFirst rfl setBlock rfl (.block rfl .none rfl)) rfl
  have struct : Grammar.DerivesStruct misnamesTokens _ (misnamesTokens.drop 20) :=
    .struct rfl rfl rfl (.more accessor .none) rfl
  have first : Grammar.DerivesFunction (misnamesTokens.drop 20) _ (misnamesTokens.drop 30) :=
    .function rfl rfl (.none rfl rfl) (.int rfl) (.block rfl (.more
      (.giveBack rfl (.ofChained (.primary (.name rfl))) rfl) .none) rfl)
  have second : Grammar.DerivesFunction (misnamesTokens.drop 30) _ (misnamesTokens.drop 40) :=
    .function rfl rfl (.none rfl rfl) (.int rfl) (.block rfl (.more
      (.giveBack rfl (.ofChained (.primary (.name rfl))) rfl) .none) rfl)
  have main : Grammar.DerivesBlock (misnamesTokens.drop 41) _ (misnamesTokens.drop 47) :=
    .block rfl (.more (.assign (.ofChained (.primary (.name rfl))) rfl
      (.ofChained (.primary (.integer rfl rfl))) rfl) .none) rfl
  exact .program (.struct struct (.function first (.function second .none))) rfl main

theorem ofSource_misnames :
    Program.ofSource misnamesSource = .ok misnames :=
  ofSource_of_derives scan_misnames (by decide) rfl derives_misnames

/-- Nothing in the accessor has a type. In the bodies of both functions and in the main body all
expressions and the assignment have one, though none of the names is declared. -/
theorem types_exactly_misnames :
    Program.ofSource misnamesSource = .ok misnames ∧
      ∃ state, misnames.checked = .ok () state ∧
        (state.types.map Prod.fst).Perm
          ((misnames.bodyNodes.filter (·.kind.isTyped)).map Node.address) ∧
        (misnames.typedNodes state).map Prod.fst =
          [⟨[0, 0, 1, 0, 1], .nameExpr, "a", ⟨1, 53⟩⟩, ⟨[0, 0, 1, 1, 1], .nameExpr, "b", ⟨1, 75⟩⟩,
            ⟨[0, 0, 2], .assignStmt, "", ⟨1, 83⟩⟩, ⟨[0, 0, 0, 2], .nameExpr, "c", ⟨1, 83⟩⟩,
            ⟨[1, 0, 0, 2], .integerExpr, "", ⟨1, 85⟩⟩] := by
  obtain ⟨state, isChecked, areAddresses, areNodes⟩ := types_exactly ofSource_misnames
  exact ⟨ofSource_misnames, state, isChecked, areAddresses, areNodes.trans (by decide)⟩

end Program

end StructLang
