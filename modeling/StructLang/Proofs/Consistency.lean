import StructLang.Proofs.Check.Complaints
import StructLang.Proofs.Check.Lexical

/-!
# Tables that agree with the rules

Once a check has completed, its tables can be read without knowing how it went: the type and the
complaint at a node are what the rule for the node gives from the types that the tables hold right
below it. A type that is unknown is never a reason to complain about operands.
-/

namespace StructLang

/-- What a verdict complains about at a place. -/
def Verdict.diagnostics (position : Position) : Verdict → List Diagnostic
  | type _ => []
  | fault kind names => [⟨kind, position.line, names⟩]

namespace CheckState

/-- The scopes of a state, seen from inside the outermost one. -/
def rootScopes (state : CheckState) : ScopeStore :=
  { state.scopes with stack := state.root?.toList }

/-- The types that the table has for several expressions, numbered from an index on, if it has one
for each. -/
def typesAt? (state : CheckState) (address : Address) (index : Nat) :
    List Expr → Option (List Ty)
  | [] => some []
  | _ :: tail => do
      let headType ← state.typeAt? (index :: address)
      let tailTypes ← state.typesAt? address (index + 1) tail
      return headType :: tailTypes

/-- What the rule for an expression says, given the types that the table has right below it. For a
name there is no such rule: it depends on what is declared around it. -/
def ruleAt? (state : CheckState) (address : Address) : Expr → Option Verdict
  | .integer .. => some (.type .int)
  | .boolean .. => some (.type .bool)
  | .group items _ => do return Rule.group (← state.typesAt? address 0 items)
  | .binary _ operator _ _ => do
      let leftType ← state.typeAt? (0 :: address)
      let rightType ← state.typeAt? (1 :: address)
      Rule.binary? operator leftType rightType
  | .unary operator _ _ => do
      let operandType ← state.typeAt? (0 :: address)
      Rule.unary? operator operandType
  | .index .. => do
      let listType ← state.typeAt? (0 :: address)
      let placeType ← state.typeAt? (1 :: address)
      return Rule.index listType placeType
  | .member _ called _ => do
      let ownerType ← state.typeAt? (0 :: address)
      return Rule.member state.rootScopes ownerType called
  | .size .. => do return Rule.size (← state.typeAt? (0 :: address))
  | .append .. => do
      let listType ← state.typeAt? (0 :: address)
      let elementType ← state.typeAt? (1 :: address)
      return Rule.append listType elementType
  | .call _ arguments _ => do
      let calleeType ← state.typeAt? (0 :: address)
      let argumentTypes ← state.typesAt? (1 :: address) 0 arguments
      return Rule.call calleeType argumentTypes
  | .name .. | .stray _ | .absent => none

/-- The tables have at an address just what a verdict gives. -/
def Bears (state : CheckState) (address : Address) (position : Position) (verdict : Verdict) :
    Prop :=
  state.typeAt? address = some verdict.ty ∧
    state.diagnosticsAt address = verdict.diagnostics position

/-- The tables have at the address of a statement just what is wrong with the type of the value
that it holds. -/
def BearsValue (state : CheckState) (address : Address) (position : Position)
    (fault? : Ty → Option DiagnosticKind) : Prop :=
  ∃ type, state.typeAt? (0 :: address) = some type ∧
    state.diagnosticsAt address = (fault? type).toList.map fun kind => ⟨kind, position.line, []⟩

end CheckState

/-- What is not complained about where an operand is of unknown type. -/
def DiagnosticKind.absorbed : List DiagnosticKind :=
  [.unsupportedOperand, .conditionNotBool, .unsupportedDisplay, .indexNotInt, .indexOnNonList,
    .memberOnNonStruct, .sizeOfNonList]

/-- The tables of a state agree with the rules everywhere in the bodies of a program. -/
structure Program.Consistent (program : Program) (state : CheckState) : Prop where
  expression : ∀ address expression, program.HasExpr address expression →
    (∀ called position, expression ≠ .name called position) →
      ∃ verdict, state.ruleAt? address expression = some verdict ∧
        state.Bears address expression.position verdict
  assignment : ∀ address target value position,
    program.HasStmt address (.assign target value position) →
      ∃ targetType valueType, state.typeAt? (0 :: address) = some targetType ∧
        state.typeAt? (1 :: address) = some valueType ∧
          state.Bears address position (Rule.binaryOp .assign targetType valueType)
  branch : ∀ address condition thenBody elseBody position,
    program.HasStmt address (.branch condition thenBody elseBody position) →
      state.BearsValue address position Rule.condition?
  loop : ∀ address condition body position,
    program.HasStmt address (.loop condition body position) →
      state.BearsValue address position Rule.condition?
  display : ∀ address argument position,
    program.HasStmt address (.display argument position) →
      state.BearsValue address position Rule.display?
  once : ∀ node ∈ program.nodes, node.kind.isDeclaration = false →
    (state.diagnosticsAt node.address).length ≤ 1
  absorbsExpression : ∀ address expression, program.HasExpr address expression →
    ∀ operand ∈ expression.operands, state.typeAt? (operand.1 ++ address) = some .unknown →
      ∀ diagnostic ∈ state.diagnosticsAt address, diagnostic.kind ∉ DiagnosticKind.absorbed
  absorbsStatement : ∀ address statement, program.HasStmt address statement →
    ∀ operand ∈ statement.operands, state.typeAt? (operand.1 ++ address) = some .unknown →
      ∀ diagnostic ∈ state.diagnosticsAt address, diagnostic.kind ∉ DiagnosticKind.absorbed

/-! ## Unknown operands -/

namespace Rule

theorem binaryOp_of_unknown
    {operator : BinaryOp} {left right : Ty} (isUnknown : left = .unknown ∨ right = .unknown) :
    ∃ type, binaryOp operator left right = .type type := by
  by_cases bothUnknown : left.isUnknown ∧ right.isUnknown
  · exact ⟨.unknown, if_pos bothUnknown⟩
  · have isAbsorbed : (left.isUnknown || right.isUnknown) = true := by
      rcases isUnknown with rfl | rfl
      · rfl
      · exact Bool.or_true _
    rw [binaryOp, if_neg bothUnknown]
    cases operator <;> simp [binaryType?, isAbsorbed, Verdict.ofOption]

theorem binary?_of_unknown
    {operator : Operator} {left right : Ty} (isUnknown : left = .unknown ∨ right = .unknown) :
    ∃ type, (binary? operator left right).getD (.type .unknown) = .type type := by
  cases operator with
  | binary plain => exact binaryOp_of_unknown isUnknown
  | unary | absent =>
      simp only [binary?]
      split <;> exact ⟨_, rfl⟩

theorem index_of_unknown
    {list place : Ty} (isUnknown : list = .unknown ∨ place = .unknown) :
    index list place = .type (elementOf list) := by
  have isAbsorbed : list.isUnknown ∨ place.isUnknown := by
    rcases isUnknown with rfl | rfl
    · exact Or.inl rfl
    · exact Or.inr rfl
  exact if_pos isAbsorbed

theorem fault_append
    {list element : Ty} {kind : DiagnosticKind} {names : List String}
    (isFault : append list element = .fault kind names) :
    kind = .elementMismatch ∨ kind = .appendToNonList := by
  simp only [append] at isFault
  grind

theorem fault_call
    {callee : Ty} {arguments : List Ty} {kind : DiagnosticKind} {names : List String}
    (isFault : call callee arguments = .fault kind names) :
    kind = .argumentMismatch ∨ kind = .callOnNonFunction := by
  simp only [call] at isFault
  grind

end Rule

theorem Expr.unknown_of_pair
    {around : Surroundings} {left right : Expr} {operand : Address × Expr}
    (isOperand : operand ∈ [([0], left), ([1], right)])
    (isUnknown : operand.2.typeIn around = .unknown) :
    left.typeIn around = .unknown ∨ right.typeIn around = .unknown := by
  rcases List.mem_cons.mp isOperand with rfl | isRight
  · exact Or.inl isUnknown
  · obtain rfl := List.mem_singleton.mp isRight
    exact Or.inr isUnknown

/-- Where an operand is of unknown type, an expression has a type. An element that is added to a
list and an argument of a call are left out: the others may be complained about all the same. -/
theorem Expr.exists_type_of_unknown
    {signature : Signature} {regions : List Region} {expression : Expr}
    {operand : Address × Expr} (isOperand : operand ∈ expression.operands)
    (isUnknown : operand.2.typeIn (signature.around regions) = .unknown)
    (isAbsorbed : operand.1 = [0] ∨ expression.kind ∉ [.appendExpr, .callExpr]) :
    ∃ type, expression.verdict (signature.around regions) = .type type := by
  cases expression with
  | integer | boolean | name | stray | absent => cases isOperand
  | group => exact ⟨_, rfl⟩
  | binary left operator right =>
      exact Rule.binary?_of_unknown (unknown_of_pair isOperand isUnknown)
  | unary operator inside =>
      obtain rfl := List.mem_singleton.mp isOperand
      have isInside : (inside.verdict (signature.around regions)).ty = .unknown := isUnknown
      rw [verdict, isInside]
      exact ⟨.unknown, rfl⟩
  | index list place =>
      exact ⟨_, Rule.index_of_unknown (unknown_of_pair isOperand isUnknown)⟩
  | member owner called =>
      obtain rfl := List.mem_singleton.mp isOperand
      have isOwner : (owner.verdict (signature.around regions)).ty = .unknown := isUnknown
      rw [verdict, isOwner]
      exact ⟨.unknown, rfl⟩
  | size list =>
      obtain rfl := List.mem_singleton.mp isOperand
      have isList : (list.verdict (signature.around regions)).ty = .unknown := isUnknown
      rw [verdict, isList]
      exact ⟨.int, rfl⟩
  | append list element =>
      obtain isFirst | notTaken := isAbsorbed
      · rcases List.mem_pair.mp isOperand with rfl | rfl
        · have isList : (list.verdict (signature.around regions)).ty = .unknown := isUnknown
          rw [verdict, isList]
          exact ⟨.unknown, rfl⟩
        · cases isFirst
      · exact absurd (.head _) notTaken
  | call callee arguments =>
      obtain isFirst | notTaken := isAbsorbed
      · rcases List.mem_cons.mp isOperand with rfl | isArgument
        · have isCallee : (callee.verdict (signature.around regions)).ty = .unknown := isUnknown
          rw [verdict, isCallee]
          exact ⟨.unknown, rfl⟩
        · obtain ⟨index, isBelow, rfl⟩ := List.mem_mapIdx.mp isArgument
          cases isFirst
      · exact absurd (.tail _ (.head _)) notTaken

/-- Where an operand is of unknown type, nothing is said about the types of operands. -/
theorem Expr.notMem_absorbed
    {signature : Signature} {regions : List Region} {expression : Expr}
    {operand : Address × Expr} {kind : DiagnosticKind} {names : List String}
    (isOperand : operand ∈ expression.operands)
    (isUnknown : operand.2.typeIn (signature.around regions) = .unknown)
    (isFault : expression.verdict (signature.around regions) = .fault kind names) :
    kind ∉ DiagnosticKind.absorbed := by
  cases expression with
  | append list element =>
      rcases Rule.fault_append isFault with rfl | rfl <;> decide
  | call callee arguments =>
      rcases Rule.fault_call isFault with rfl | rfl <;> decide
  | stray | absent => cases isOperand
  | _ =>
      obtain ⟨type, isType⟩ :=
        exists_type_of_unknown isOperand isUnknown (.inr (by simp [Expr.kind]))
      cases isFault.symm.trans isType

/-- A statement finds nothing at itself if an operand is of unknown type, but that the types of a
value and its target fit. -/
theorem Stmt.reportsOf_ownFindings
    {around : Surroundings} {address : Address} {statement : Stmt} {operand : Address × Expr}
    (isOperand : operand ∈ statement.operands)
    (isUnknown : operand.2.typeIn around = .unknown) :
    Finding.reportsOf (statement.ownFindings around address) = [] := by
  cases statement with
  | assign target value position =>
      obtain ⟨type, isType⟩ :=
        Rule.binaryOp_of_unknown (Expr.unknown_of_pair isOperand isUnknown)
      rw [ownFindings, isType]
      rfl
  | branch | loop | display =>
      obtain rfl := List.mem_singleton.mp isOperand
      simp only [ownFindings, isUnknown]
      rfl
  | _ => rfl

/-! ## The rules on the tables -/

namespace CheckState

variable {state : CheckState} {around : Surroundings} {address : Address}

theorem typesAt?_eq
    (index : Nat) (expressions : List Expr)
    (types : ∀ number expression, expressions[number]? = some expression →
      state.typeAt? ((index + number) :: address) = some (expression.typeIn around)) :
    state.typesAt? address index expressions = some (Expr.typesOf around expressions) := by
  induction expressions generalizing index with
  | nil => rfl
  | cons head tail inductionHypothesis =>
      have isHead : state.typeAt? (index :: address) = some (head.typeIn around) :=
        types 0 head rfl
      have areTail := inductionHypothesis (index + 1) fun number expression isThere => by
        rw [Nat.add_right_comm]
        exact types (number + 1) expression isThere
      rw [typesAt?, isHead, areTail]
      rfl

/-- The operands of a list of expressions have their types in the table. -/
theorem typesAt?_mapIdx
    {expressions : List Expr} {ways : Nat → Address} (below : Address)
    (isWay : ∀ index, ways index ++ address = index :: below)
    (types : ∀ operand ∈ expressions.mapIdx fun index item => (ways index, item),
      state.typeAt? (operand.1 ++ address) = some (operand.2.typeIn around)) :
    state.typesAt? below 0 expressions = some (Expr.typesOf around expressions) := by
  refine typesAt?_eq 0 expressions fun number expression isThere => ?_
  obtain ⟨isBelow, rfl⟩ := List.getElem?_eq_some_iff.mp isThere
  rw [Nat.zero_add, ← isWay]
  exact types (ways number, expressions[number]) (List.mem_mapIdx.mpr ⟨number, isBelow, rfl⟩)

/-- If the table has the types of the operands, the rule for an expression gives its verdict. -/
theorem ruleAt?_eq
    {expression : Expr} (proper : expression.IsProper)
    (notName : ∀ called position, expression ≠ .name called position)
    (fits : expression.OperatorFits around)
    (isMember : Rule.member state.rootScopes = around.member)
    (types : ∀ operand ∈ expression.operands,
      state.typeAt? (operand.1 ++ address) = some (operand.2.typeIn around)) :
    state.ruleAt? address expression = some (expression.verdict around) := by
  cases expression with
  | integer | boolean => rfl
  | name called position => exact absurd rfl (notName called position)
  | stray | absent => exact proper.elim
  | group items =>
      have areItems := typesAt?_mapIdx address (fun _ => rfl) types
      rw [ruleAt?, areItems]
      rfl
  | binary left operator right =>
      have isLeft : state.typeAt? (0 :: address) = some (left.typeIn around) :=
        types _ List.mem_cons_self
      have isRight : state.typeAt? (1 :: address) = some (right.typeIn around) :=
        types _ (.tail _ List.mem_cons_self)
      obtain ⟨verdict, isVerdict⟩ := Option.isSome_iff_exists.mp fits
      rw [ruleAt?, isLeft, isRight, Expr.verdict]
      change Rule.binary? operator (left.typeIn around) (right.typeIn around) =
        some ((Rule.binary? operator (left.typeIn around) (right.typeIn around)).getD _)
      rw [isVerdict, Option.getD_some]
  | unary operator operand =>
      have isOperand : state.typeAt? (0 :: address) = some (operand.typeIn around) :=
        types _ List.mem_cons_self
      obtain ⟨verdict, isVerdict⟩ := Option.isSome_iff_exists.mp fits
      rw [ruleAt?, isOperand, Expr.verdict]
      change Rule.unary? operator (operand.typeIn around) =
        some ((Rule.unary? operator (operand.typeIn around)).getD _)
      rw [isVerdict, Option.getD_some]
  | index list place =>
      have isList : state.typeAt? (0 :: address) = some (list.typeIn around) :=
        types _ List.mem_cons_self
      have isPlace : state.typeAt? (1 :: address) = some (place.typeIn around) :=
        types _ (.tail _ List.mem_cons_self)
      rw [ruleAt?, isList, isPlace]
      rfl
  | member owner called =>
      have isOwner : state.typeAt? (0 :: address) = some (owner.typeIn around) :=
        types _ List.mem_cons_self
      rw [ruleAt?, isOwner, isMember]
      rfl
  | size list =>
      have isList : state.typeAt? (0 :: address) = some (list.typeIn around) :=
        types _ List.mem_cons_self
      rw [ruleAt?, isList]
      rfl
  | append list element =>
      have isList : state.typeAt? (0 :: address) = some (list.typeIn around) :=
        types _ List.mem_cons_self
      have isElement : state.typeAt? (1 :: address) = some (element.typeIn around) :=
        types _ (.tail _ List.mem_cons_self)
      rw [ruleAt?, isList, isElement]
      rfl
  | call callee arguments =>
      obtain ⟨isCallee, ofArguments⟩ := List.forall_mem_cons.mp types
      have areArguments := typesAt?_mapIdx (1 :: address) (fun _ => rfl) ofArguments
      change state.typeAt? (0 :: address) = _ at isCallee
      rw [ruleAt?, isCallee, areArguments]
      rfl

end CheckState

/-! ## Tables and findings -/

theorem lookup_eq_head?_filter
    {beta : Type} (address : Address) (table : List (Address × beta)) :
    table.lookup address = ((table.filter (·.1 = address)).head?).map (·.2) := by
  induction table with
  | nil => rfl
  | cons head tail inductionHypothesis =>
      rw [List.lookup_cons, List.filter_cons]
      by_cases isHead : head.1 = address
      · simp [isHead]
      · rw [if_neg (by simpa using isHead), ← inductionHypothesis]
        simp [beq_eq_false_iff_ne.mpr (Ne.symm isHead)]

namespace Finding

theorem filter_typings
    (address : Address) (findings : List Finding) :
    (findings.filterMap typing?).filter (·.1 = address) =
      (allAbout address findings).filterMap typing? := by
  rw [allAbout, List.filter_filterMap, List.filterMap_filter]
  congr
  funext finding
  cases finding <;> grind [typing?, about?]

theorem filter_reports
    (address : Address) (findings : List Finding) :
    (findings.filterMap report?).filter (·.address? == some address) =
      reportsOf (allAbout address findings) := by
  rw [reportsOf, allAbout, List.filter_filterMap, List.filterMap_filter]
  congr
  funext finding
  cases finding <;> grind [report?, about?]

end Finding

namespace Program

variable {program : Program} {state : CheckState}

namespace Outcome

open Finding

variable (outcome : program.Outcome state)

include outcome

theorem typeAt?_eq
    (address : Address) :
    state.typeAt? address =
      (((allAbout address program.findings).filterMap typing?).getLast?).map (·.2) := by
  rw [CheckState.typeAt?, lookup_eq_head?_filter, outcome.types_eq, List.filter_reverse,
    List.head?_reverse, filter_typings]

theorem diagnosticsAt_eq
    (address : Address) :
    state.diagnosticsAt address =
      (reportsOf (allAbout address program.findings)).map (·.diagnostic) := by
  rw [CheckState.diagnosticsAt, outcome.reports_eq, filter_reports]

theorem bears_settled
    {address : Address} {position : Position} {verdict : Verdict}
    (isSettled : allAbout address program.findings = settled address position verdict) :
    state.Bears address position verdict := by
  rw [CheckState.Bears, outcome.typeAt?_eq, outcome.diagnosticsAt_eq, isSettled]
  cases verdict <;> exact ⟨rfl, rfl⟩

theorem visitsFit : Visit.AllFit program.visits := by
  obtain ⟨store, -, finished⟩ := outcome.finished
  exact finished.visitsFit

/-- What members mean inside the outermost scope in the end is what they meant to every body. -/
theorem member_eq : Rule.member state.rootScopes = program.signature.member := by
  obtain ⟨store, isPopped, finished⟩ := outcome.finished
  have isStore : state.rootScopes = store := by
    rw [CheckState.rootScopes, outcome.root?_eq, isPopped, Option.toList_some, ← finished.stack]
    rfl
  rw [isStore]
  exact finished.inside.fits.member_eq

/-- The tables have the verdict on every visited expression. -/
theorem bears_of_visited
    {signature : Signature} {regions : List Region} {address : Address} {expression : Expr}
    (isVisited : ⟨signature, regions, address, .expression expression⟩ ∈ program.visits) :
    state.Bears address expression.position
      (expression.verdict (signature.around regions)) :=
  outcome.bears_settled (allAbout_findings isVisited)

/-- The table has the type of an expression whose parts were visited. -/
theorem typeAt?_of_visits
    {signature : Signature} {regions : List Region} {address : Address} {expression : Expr}
    (proper : expression.IsProper)
    (areVisited : expression.visits signature regions address ⊆ program.visits) :
    state.typeAt? address = some (expression.typeIn (signature.around regions)) :=
  (outcome.bears_of_visited (areVisited (List.mem_map_of_mem (Expr.mem_parts_self proper)))).1

/-- What the tables have for an expression and for its operands. -/
theorem seen_of_sees
    {number : Nat} {address : Address} {regions : List Region} {expression : Expr}
    (sees : program.Sees number address regions expression) :
    let around := (program.signatureFor number).around (regions ++ program.beyond number)
    expression.IsProper ∧ expression.Fits around ∧
      state.Bears address expression.position (expression.verdict around) ∧
      ∀ operand ∈ expression.operands,
        state.typeAt? (operand.1 ++ address) = some (operand.2.typeIn around) := by
  intro around
  obtain ⟨proper, inProgram⟩ := sees.visits_subset outcome.visitsFit
  have isVisited := inProgram (List.mem_map_of_mem (Expr.mem_parts_self proper))
  have fits : expression.Fits around := outcome.visitsFit _ isVisited
  refine ⟨proper, fits, outcome.bears_of_visited isVisited, fun operand isOperand => ?_⟩
  exact outcome.typeAt?_of_visits (fits.operands operand isOperand)
    (List.Subset.trans (List.map_subset _ (Expr.parts_operand_subset isOperand)) inProgram)

/-- What the tables have for a statement and for its operands. -/
theorem seen_of_hasStmt
    {address : Address} {statement : Stmt} (hasStmt : program.HasStmt address statement)
    (hasOperand : statement.operands ≠ []) :
    ∃ around : Surroundings,
      allAbout address program.findings = statement.ownFindings around address ∧
      ∀ operand ∈ statement.operands,
        state.typeAt? (operand.1 ++ address) = some (operand.2.typeIn around) := by
  obtain ⟨number, here, outer, stands⟩ := hasStmt
  obtain ⟨isVisited, inProgram⟩ := stands.visits_operands hasOperand
  have proper : ∀ operand ∈ statement.operands, operand.2.IsProper :=
    outcome.visitsFit _ isVisited
  exact ⟨_, allAbout_findings isVisited, fun operand isOperand =>
    outcome.typeAt?_of_visits (proper operand isOperand) (inProgram operand isOperand)⟩

theorem bearsValue_of_found
    {address : Address} {position : Position} {type : Ty} {fault? : Ty → Option DiagnosticKind}
    (isType : state.typeAt? (0 :: address) = some type)
    (isFound : allAbout address program.findings =
      match fault? type with
      | some kind => [complaint kind address position []]
      | none => []) :
    state.BearsValue address position fault? := by
  refine ⟨type, isType, ?_⟩
  rw [outcome.diagnosticsAt_eq, isFound]
  cases fault? type <;> rfl

/-- An expression with an operand of unknown type complains about nothing, unless it is one of those
that do so all the same. -/
theorem diagnosticsAt_expression_of_unknown
    {address : Address} {expression : Expr} (hasExpr : program.HasExpr address expression)
    {operand : Address × Expr} (isOperand : operand ∈ expression.operands)
    (isUnknown : state.typeAt? (operand.1 ++ address) = some .unknown)
    (isAbsorbed : operand.1 = [0] ∨ expression.kind ∉ [.appendExpr, .callExpr]) :
    state.diagnosticsAt address = [] := by
  obtain ⟨number, regions, sees⟩ := hasExpr
  obtain ⟨-, -, bears, types⟩ := outcome.seen_of_sees sees
  rw [types operand isOperand, Option.some.injEq] at isUnknown
  obtain ⟨type, isType⟩ := Expr.exists_type_of_unknown isOperand isUnknown isAbsorbed
  rw [bears.2, isType]
  rfl

/-- A statement with an operand of unknown type complains about nothing. -/
theorem diagnosticsAt_statement_of_unknown
    {address : Address} {statement : Stmt} (hasStmt : program.HasStmt address statement)
    {operand : Address × Expr} (isOperand : operand ∈ statement.operands)
    (isUnknown : state.typeAt? (operand.1 ++ address) = some .unknown) :
    state.diagnosticsAt address = [] := by
  obtain ⟨around, isFound, types⟩ :=
    outcome.seen_of_hasStmt hasStmt (List.ne_nil_of_mem isOperand)
  rw [types operand isOperand, Option.some.injEq] at isUnknown
  rw [outcome.diagnosticsAt_eq, isFound, Stmt.reportsOf_ownFindings isOperand isUnknown]
  rfl

theorem consistent : program.Consistent state where
  expression address expression hasExpr notName := by
    obtain ⟨number, regions, sees⟩ := hasExpr
    obtain ⟨proper, fits, bears, types⟩ := outcome.seen_of_sees sees
    have isMember : Rule.member state.rootScopes = ((program.signatureFor number).around
        (regions ++ program.beyond number)).member := outcome.member_eq
    exact ⟨_, CheckState.ruleAt?_eq proper notName fits.operator isMember types, bears⟩
  assignment address target value position hasStmt := by
    obtain ⟨around, isFound, types⟩ := outcome.seen_of_hasStmt hasStmt (List.cons_ne_nil _ _)
    exact ⟨target.typeIn around, value.typeIn around, types _ List.mem_cons_self,
      types _ (.tail _ List.mem_cons_self), outcome.bears_settled isFound⟩
  branch address condition thenBody elseBody position hasStmt := by
    obtain ⟨around, isFound, types⟩ := outcome.seen_of_hasStmt hasStmt (List.cons_ne_nil _ _)
    exact outcome.bearsValue_of_found (types _ List.mem_cons_self) isFound
  loop address condition body position hasStmt := by
    obtain ⟨around, isFound, types⟩ := outcome.seen_of_hasStmt hasStmt (List.cons_ne_nil _ _)
    exact outcome.bearsValue_of_found (types _ List.mem_cons_self) isFound
  display address argument position hasStmt := by
    obtain ⟨around, isFound, types⟩ := outcome.seen_of_hasStmt hasStmt (List.cons_ne_nil _ _)
    exact outcome.bearsValue_of_found (types _ List.mem_cons_self) isFound
  once node isNode notDeclaration := by
    rw [outcome.diagnosticsAt_eq, List.length_map]
    exact length_reportsOf_allAbout isNode notDeclaration
  absorbsExpression address expression hasExpr operand isOperand isUnknown := by
    obtain ⟨number, regions, sees⟩ := hasExpr
    obtain ⟨-, -, bears, types⟩ := outcome.seen_of_sees sees
    rw [types operand isOperand, Option.some.injEq] at isUnknown
    rw [bears.2]
    cases isVerdict : expression.verdict ((program.signatureFor number).around
        (regions ++ program.beyond number)) with
    | type => exact List.forall_mem_nil _
    | fault kind names =>
        exact List.forall_mem_singleton.mpr
          (Expr.notMem_absorbed isOperand isUnknown isVerdict)
  absorbsStatement address statement hasStmt operand isOperand isUnknown := by
    rw [outcome.diagnosticsAt_statement_of_unknown hasStmt isOperand isUnknown]
    exact List.forall_mem_nil _

end Outcome

/-- Once the check of a program has completed, its tables agree with the rules. -/
theorem consistent_of_checked
    (isChecked : program.checked = .ok () state) : program.Consistent state :=
  (outcome_of_checked isChecked).consistent

/-- A program that displays the sum of a number and a truth value. -/
def mistakenSum : Program :=
  let sum : Expr := .binary (.integer 1 ⟨1, 14⟩) (.binary .add) (.boolean true ⟨1, 18⟩) ⟨1, 14⟩
  ⟨[], [], some ⟨.block [.display sum ⟨1, 6⟩] ⟨1, 5⟩, ⟨1, 1⟩⟩, ⟨1, 1⟩⟩

theorem consistent_mistakenSum :
    ∃ state, mistakenSum.checked = .ok () state ∧
      state.diagnostics = [⟨.unsupportedOperand, 1, ["add"]⟩] ∧ mistakenSum.Consistent state :=
  ⟨_, rfl, rfl, consistent_of_checked rfl⟩

end Program

end StructLang
