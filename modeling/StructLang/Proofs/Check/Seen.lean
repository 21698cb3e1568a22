import StructLang.Proofs.Check.Lexical

/-!
# Everything in a body is seen

What stands in the body of a program as it is written is itself as it is written. Every expression
that is a node of a body sees what is declared before it there.
-/

namespace StructLang

/-! ## Parts of what is written -/

namespace Expr

variable {address way : Address} {expression operand : Expr}

theorem writtenAll_iff
    {expressions : List Expr} :
    WrittenAll expressions ↔ ∀ expression ∈ expressions, expression.Written := by
  induction expressions with
  | nil => simp [WrittenAll]
  | cons head tail inductionHypothesis => simp [WrittenAll, inductionHypothesis]

theorem Written.of_mem_mapIdx
    {expressions : List Expr} {ways : Nat → Address} (written : WrittenAll expressions)
    (isOperand : (way, operand) ∈ expressions.mapIdx fun index item => (ways index, item)) :
    operand.Written := by
  obtain ⟨index, isBelow, same⟩ := List.mem_mapIdx.mp isOperand
  obtain ⟨-, rfl⟩ := Prod.mk.inj same
  exact writtenAll_iff.mp written _ (List.getElem_mem isBelow)

theorem Written.of_operand
    (written : expression.Written) (isOperand : (way, operand) ∈ expression.operands) :
    operand.Written := by
  cases expression with
  | integer | boolean | name | stray | absent => cases isOperand
  | group items => exact Written.of_mem_mapIdx written.2 isOperand
  | call callee arguments =>
      rcases List.mem_cons.mp isOperand with same | isArgument
      · obtain ⟨-, rfl⟩ := Prod.mk.inj same
        exact written.1
      · exact Written.of_mem_mapIdx written.2 isArgument
  | _ =>
      simp only [Written] at written
      simp only [operands, List.mem_cons, Prod.mk.injEq, List.not_mem_nil, or_false] at isOperand
      grind

end Expr

namespace Stmt

theorem writtenAll_iff
    {statements : List Stmt} :
    WrittenAll statements ↔ ∀ statement ∈ statements, statement.Written := by
  induction statements with
  | nil => simp [WrittenAll]
  | cons head tail inductionHypothesis => simp [WrittenAll, inductionHypothesis]

/-- A statement as it is written, or none in the place of an `else`. -/
def WrittenOrAbsent (statement : Stmt) : Prop := statement = .absent ∨ statement.Written

theorem WrittenOrAbsent.of_operand
    {statement : Stmt} {way : Address} {operand : Expr} (written : statement.WrittenOrAbsent)
    (isOperand : (way, operand) ∈ statement.operands) : operand.Written := by
  rcases written with rfl | written
  · cases isOperand
  · cases statement with
    | block | declare | accessor | stray | absent => cases isOperand
    | giveBack value? =>
        cases value? with
        | none => cases isOperand
        | some value =>
            obtain ⟨-, rfl⟩ := Prod.mk.inj (List.mem_singleton.mp isOperand)
            exact written
    | _ =>
        simp only [Written] at written
        simp only [operands, List.mem_cons, Prod.mk.injEq, List.not_mem_nil, or_false]
          at isOperand
        grind

end Stmt

namespace Program

variable {program : Program} {number : Nat} {address : Address} {here : Region}
  {outer regions : List Region} {statement : Stmt} {expression : Expr}

theorem Stands.written
    (stands : program.Stands number address here outer statement) (written : program.Written) :
    statement.WrittenOrAbsent := by
  induction stands with
  | function isThere =>
      exact Or.inr (written.functions _ (List.mem_of_getElem? isThere)).body
  | main isThere =>
      obtain ⟨declaration, isMain, isWritten⟩ := written.main
      rw [isThere, Option.some.injEq] at isMain
      exact Or.inr (isMain ▸ isWritten)
  | ofBlock _ isThere inductionHypothesis =>
      rcases inductionHypothesis with isAbsent | areWritten
      · cases isAbsent
      · exact Or.inr (Stmt.writtenAll_iff.mp areWritten _ (List.mem_of_getElem? isThere))
  | ofThen _ inductionHypothesis =>
      rcases inductionHypothesis with isAbsent | isWritten
      · cases isAbsent
      · exact Or.inr isWritten.2.1
  | ofElse _ inductionHypothesis =>
      rcases inductionHypothesis with isAbsent | isWritten
      · cases isAbsent
      · exact isWritten.2.2
  | ofLoop _ inductionHypothesis =>
      rcases inductionHypothesis with isAbsent | isWritten
      · cases isAbsent
      · exact Or.inr isWritten.2

theorem Sees.written
    (sees : program.Sees number address regions expression) (written : program.Written) :
    expression.Written := by
  induction sees with
  | ofStmt stands isOperand => exact (stands.written written).of_operand isOperand
  | ofExpr _ isOperand inductionHypothesis => exact inductionHypothesis.of_operand isOperand

end Program

/-! ## Nodes of bodies -/

namespace Expr

variable {address : Address} {node : Node}

theorem mem_nodesOf
    (way : Address) {expressions : List Expr} :
    node ∈ nodesOf (way ++ address) 0 expressions ↔
      ∃ operand ∈ expressions.mapIdx fun index item => (index :: way, item),
        node ∈ operand.2.nodes (operand.1 ++ address) :=
  mem_reached way nodes (fun _ => List.not_mem_nil) fun _ _ _ => List.mem_append

/-- The first node of an expression is the one of the expression itself. -/
theorem address_of_head?
    {expression : Expr} (written : expression.Written)
    (isHead : (expression.nodes address).head? = some node) : node.address = address := by
  cases expression with
  | stray | absent => exact written.elim
  | _ =>
      obtain rfl := Option.some.inj isHead
      rfl

/-- A node of an expression is the one of the expression itself or below an operand. -/
theorem head_or_below
    {expression : Expr} (written : expression.Written) (isNode : node ∈ expression.nodes address) :
    (expression.nodes address).head? = some node ∨
      ∃ operand ∈ expression.operands, node ∈ operand.2.nodes (operand.1 ++ address) := by
  cases expression with
  | integer | boolean | name =>
      obtain rfl := List.mem_singleton.mp isNode
      exact Or.inl rfl
  | stray | absent => exact written.elim
  | group items =>
      rcases List.mem_cons.mp isNode with rfl | isBelow
      · exact Or.inl rfl
      · exact Or.inr ((mem_nodesOf []).mp isBelow)
  | call callee arguments =>
      rcases List.mem_cons.mp isNode with rfl | isBelow
      · exact Or.inl rfl
      · rcases List.mem_append.mp isBelow with ofCallee | ofArgument
        · exact Or.inr ⟨_, List.mem_cons_self, ofCallee⟩
        · obtain ⟨operand, isOperand, isPart⟩ := (mem_nodesOf [1]).mp ofArgument
          exact Or.inr ⟨operand, List.mem_cons_of_mem _ isOperand, isPart⟩
  | _ =>
      rcases List.mem_cons.mp isNode with rfl | isBelow
      · exact Or.inl rfl
      · apply Or.inr
        simpa [operands, List.mem_append] using isBelow

theorem sizeOf_lt_of_operand
    {expression operand : Expr} {way : Address}
    (isOperand : (way, operand) ∈ expression.operands) : sizeOf operand < sizeOf expression := by
  have inList {items : List Expr} {ways : Nat → Address}
      (isItem : (way, operand) ∈ items.mapIdx fun index item => (ways index, item)) :
      sizeOf operand < sizeOf items := by
    obtain ⟨index, isBelow, same⟩ := List.mem_mapIdx.mp isItem
    obtain ⟨-, rfl⟩ := Prod.mk.inj same
    exact List.sizeOf_lt_of_mem (List.getElem_mem isBelow)
  cases expression with
  | integer | boolean | name | stray | absent => cases isOperand
  | group items =>
      have smaller := inList isOperand
      simp
      omega
  | call callee arguments =>
      rcases List.mem_cons.mp isOperand with same | isArgument
      · obtain ⟨-, rfl⟩ := Prod.mk.inj same
        simp
        omega
      · have smaller := inList isArgument
        simp
        omega
  | _ =>
      simp only [operands, List.mem_cons, Prod.mk.injEq, List.not_mem_nil, or_false] at isOperand
      grind

end Expr

/-- Whether nodes of a kind are expressions. -/
def NodeKind.isExpression : NodeKind → Bool
  | binaryExpr | unaryExpr | integerExpr | booleanExpr | nameExpr | groupExpr | indexExpr
  | memberExpr | sizeExpr | appendExpr | callExpr => true
  | _ => false

theorem NodeKind.not_isDeclaration_of_isExpression
    {kind : NodeKind} (isExpression : kind.isExpression) : ¬ kind.isDeclaration := by
  cases kind <;> first | cases isExpression; done | exact Bool.false_ne_true

theorem VariableDecl.mem_nodesOf
    {address : Address} {node : Node} {index : Nat} {declarations : List VariableDecl} :
    node ∈ nodesOf address index declarations ↔
      ∃ (number : Nat) (declaration : VariableDecl), declarations[number]? = some declaration ∧
        node = declaration.node ((index + number) :: address) := by
  have isPart : node ∈ nodesOf address index declarations ↔
      ∃ (number : Nat) (declaration : VariableDecl), declarations[number]? = some declaration ∧
        node ∈ [declaration.node ((index + number) :: address)] :=
    mem_numbered (fun place (declaration : VariableDecl) => [declaration.node place])
      (fun _ => List.not_mem_nil) fun _ _ _ => by rw [nodesOf, List.mem_cons, List.mem_singleton]
  simpa only [List.mem_singleton] using isPart

theorem VariableDecl.kind_of_mem_nodesOf
    {address : Address} {node : Node} {index : Nat} {declarations : List VariableDecl}
    (isNode : node ∈ nodesOf address index declarations) : node.kind = .variableDecl := by
  obtain ⟨number, declaration, -, rfl⟩ := mem_nodesOf.mp isNode
  rfl

theorem Stmt.WrittenOrAbsent.not_isExpression
    {statement : Stmt} (written : statement.WrittenOrAbsent) :
    ¬ statement.kind.isExpression := by
  rcases written with rfl | written
  · exact Bool.false_ne_true
  · cases statement with
    | stray | accessor => exact written.elim
    | _ => exact Bool.false_ne_true

theorem Stmt.mem_nodesOf
    {address : Address} {node : Node} {index : Nat} {statements : List Stmt} :
    node ∈ nodesOf address index statements ↔
      ∃ (number : Nat) (statement : Stmt), statements[number]? = some statement ∧
        node ∈ statement.nodes ((index + number) :: address) :=
  mem_numbered nodes (fun _ => List.not_mem_nil) fun _ _ _ => List.mem_append

namespace Program

variable {program : Program} {number : Nat} {node : Node}

/-- At the address of a node stands an expression whose node it is. -/
def SeesNode (program : Program) (number : Nat) (regions : List Region) (node : Node) : Prop :=
  ∃ expression, program.Sees number node.address regions expression ∧
    (expression.nodes node.address).head? = some node

/-- Every node of an expression of a body is that of an expression of the body. -/
theorem Sees.of_mem_nodes
    {address : Address} {regions : List Region} {expression : Expr}
    (sees : program.Sees number address regions expression) (written : program.Written)
    (isNode : node ∈ expression.nodes address) : program.SeesNode number regions node := by
  have writtenHere := sees.written written
  rcases Expr.head_or_below writtenHere isNode with isHead | ⟨⟨way, operand⟩, isOperand, isBelow⟩
  · obtain rfl := Expr.address_of_head? writtenHere isHead
    exact ⟨expression, sees, isHead⟩
  · have smaller := Expr.sizeOf_lt_of_operand isOperand
    exact (Sees.ofExpr sees isOperand).of_mem_nodes written isBelow
termination_by sizeOf expression

theorem SeesNode.isExpression
    {regions : List Region} (sees : program.SeesNode number regions node)
    (written : program.Written) : node.kind.isExpression := by
  obtain ⟨expression, seesHead, isHead⟩ := sees
  cases expression with
  | stray | absent => exact (seesHead.written written).elim
  | _ => exact congrArg (·.kind.isExpression) (Option.some.inj isHead).symm

theorem Stands.sees_of_operand
    {address way : Address} {here : Region} {outer : List Region} {statement : Stmt}
    {operand : Expr} (stands : program.Stands number address here outer statement)
    (isOperand : (way, operand) ∈ statement.operands) (written : program.Written)
    (isBelow : node ∈ operand.nodes (way ++ address)) :
    ∃ regions, program.SeesNode number regions node :=
  ⟨_, (Sees.ofStmt stands isOperand).of_mem_nodes written isBelow⟩

/-- A node of a statement of a body is that of a statement of the body, of a variable that such a
statement declares or of an expression of the body. -/
theorem Stands.cases_of_mem_nodes
    {address : Address} {here : Region} {outer : List Region} {statement : Stmt}
    (stands : program.Stands number address here outer statement) (written : program.Written)
    (isNode : node ∈ statement.nodes address) :
    (∃ inner, program.HasStmt node.address inner ∧ node.kind = inner.kind) ∨
      (∃ place near far declared position,
        program.Stands number place near far (.declare declared position) ∧
          node ∈ VariableDecl.nodesOf place 0 declared) ∨
      ∃ regions, program.SeesNode number regions node := by
  have hasStmt : program.HasStmt address statement := ⟨number, here, outer, stands⟩
  cases statement with
  | block statements =>
      rcases List.mem_cons.mp isNode with rfl | isBelow
      · exact Or.inl ⟨_, hasStmt, rfl⟩
      · obtain ⟨index, inner, isThere, isPart⟩ := Stmt.mem_nodesOf.mp isBelow
        have smaller := List.sizeOf_lt_of_mem (List.mem_of_getElem? isThere)
        rw [Nat.zero_add] at isPart
        exact (Stands.ofBlock stands isThere).cases_of_mem_nodes written isPart
  | declare declared =>
      rcases List.mem_cons.mp isNode with rfl | isBelow
      · exact Or.inl ⟨_, hasStmt, rfl⟩
      · exact Or.inr (Or.inl ⟨_, _, _, _, _, stands, isBelow⟩)
  | assign target value position =>
      rcases List.mem_cons.mp isNode with rfl | isBelow
      · exact Or.inl ⟨_, hasStmt, rfl⟩
      · have isTarget : ([0], target) ∈ [([0], target), ([1], value)] := .head _
        have isValue : ([1], value) ∈ [([0], target), ([1], value)] := .tail _ (.head _)
        rcases List.mem_append.mp isBelow with ofTarget | ofValue
        · exact Or.inr (Or.inr (stands.sees_of_operand isTarget written ofTarget))
        · exact Or.inr (Or.inr (stands.sees_of_operand isValue written ofValue))
  | branch condition thenBody elseBody =>
      rcases List.mem_cons.mp isNode with rfl | isBelow
      · exact Or.inl ⟨_, hasStmt, rfl⟩
      · rcases List.mem_append.mp isBelow with isBefore | ofElse
        · rcases List.mem_append.mp isBefore with ofCondition | ofThen
          · exact Or.inr (Or.inr (stands.sees_of_operand
              (List.mem_singleton_self ([0], condition)) written ofCondition))
          · exact (Stands.ofThen stands).cases_of_mem_nodes written ofThen
        · exact (Stands.ofElse stands).cases_of_mem_nodes written ofElse
  | loop condition body =>
      rcases List.mem_cons.mp isNode with rfl | isBelow
      · exact Or.inl ⟨_, hasStmt, rfl⟩
      · rcases List.mem_append.mp isBelow with ofCondition | ofBody
        · exact Or.inr (Or.inr (stands.sees_of_operand
            (List.mem_singleton_self ([0], condition)) written ofCondition))
        · exact (Stands.ofLoop stands).cases_of_mem_nodes written ofBody
  | display operand | append operand | size operand | call operand =>
      rcases List.mem_cons.mp isNode with rfl | isBelow
      · exact Or.inl ⟨_, hasStmt, rfl⟩
      · exact Or.inr (Or.inr (stands.sees_of_operand (List.mem_singleton_self ([0], operand))
          written isBelow))
  | giveBack value? =>
      rcases List.mem_cons.mp isNode with rfl | isBelow
      · exact Or.inl ⟨_, hasStmt, rfl⟩
      · cases value? with
        | none => cases isBelow
        | some value =>
            exact Or.inr (Or.inr (stands.sees_of_operand (List.mem_singleton_self ([0], value))
              written isBelow))
  | accessor | stray => exact (stands.written written).elim nofun False.elim
  | absent => cases isNode
termination_by sizeOf statement
decreasing_by
  all_goals
    subst_vars
    simp only [Stmt.block.sizeOf_spec, Stmt.branch.sizeOf_spec, Stmt.loop.sizeOf_spec]
    omega

/-- What stands in a body is a statement as it is written. -/
theorem HasStmt.written
    {address : Address} {statement : Stmt} (hasStmt : program.HasStmt address statement)
    (written : program.Written) : statement.WrittenOrAbsent := by
  obtain ⟨_, _, _, stands⟩ := hasStmt
  exact stands.written written

/-- Every node of a statement of a body that is an expression is one of the body. -/
theorem Stands.sees_of_mem_nodes
    {address : Address} {here : Region} {outer : List Region} {statement : Stmt}
    (stands : program.Stands number address here outer statement) (written : program.Written)
    (isNode : node ∈ statement.nodes address) (isExpression : node.kind.isExpression) :
    ∃ regions, program.SeesNode number regions node := by
  rcases stands.cases_of_mem_nodes written isNode with
    ⟨inner, hasStmt, isKind⟩ | ⟨_, _, _, _, _, -, isVariable⟩ | sees
  · rw [isKind] at isExpression
    exact absurd isExpression (hasStmt.written written).not_isExpression
  · rw [VariableDecl.kind_of_mem_nodesOf isVariable] at isExpression
    cases isExpression
  · exact sees

/-- The nodes of the bodies of functions and of the main body. -/
def bodyNodes (program : Program) : List Node :=
  (program.functions.mapIdx fun index declaration =>
      declaration.body.nodes (1 :: functionAddress index)).flatten ++
    (program.main?.map fun declaration => declaration.body.nodes (0 :: mainAddress)).getD []

/-- A node of a program is the one of the program itself or part of a declaration. -/
theorem cases_of_mem_nodes
    (isNode : node ∈ program.nodes) :
    node = ⟨[], .program, "", program.position⟩ ∨
      (∃ (index : Nat) (owner : StructDecl), program.structs[index]? = some owner ∧
        node ∈ owner.nodes (structAddress index)) ∨
      (∃ (index : Nat) (function : FunctionDecl), program.functions[index]? = some function ∧
        node ∈ function.nodes (functionAddress index)) ∨
      ∃ main, program.main? = some main ∧ node ∈ main.nodes mainAddress := by
  rw [nodes, List.append_assoc] at isNode
  rcases List.mem_cons.mp isNode with rfl | isBelow
  · exact Or.inl rfl
  rcases List.mem_append.mp isBelow with inStruct | isBelow
  · obtain ⟨part, isPart, inPart⟩ := List.mem_flatten.mp inStruct
    obtain ⟨index, isThere, rfl⟩ := List.mem_mapIdx.mp isPart
    exact Or.inr (Or.inl ⟨index, _, List.getElem?_eq_getElem isThere, inPart⟩)
  rcases List.mem_append.mp isBelow with inFunction | inMain
  · obtain ⟨part, isPart, inPart⟩ := List.mem_flatten.mp inFunction
    obtain ⟨index, isThere, rfl⟩ := List.mem_mapIdx.mp isPart
    exact Or.inr (Or.inr (Or.inl ⟨index, _, List.getElem?_eq_getElem isThere, inPart⟩))
  · cases isMain : program.main? with
    | none =>
        rw [isMain] at inMain
        cases inMain
    | some main =>
        rw [isMain] at inMain
        exact Or.inr (Or.inr (Or.inr ⟨main, rfl, inMain⟩))

/-- What declares nothing and is not below a struct stands in a body. -/
theorem mem_bodyNodes
    (isNode : node ∈ program.nodes) (notDeclaration : ¬ node.kind.isDeclaration)
    (notInStruct : ¬ [0] <:+ node.address) : node ∈ program.bodyNodes := by
  rcases cases_of_mem_nodes isNode with rfl | ⟨index, owner, -, inPart⟩ |
    ⟨index, function, isThere, inPart⟩ | ⟨main, isMain, inPart⟩
  · exact absurd rfl notDeclaration
  · have isBelow := (owner.apart_nodes (structAddress index)).below node inPart
    exact absurd ((List.suffix_cons index [0]).trans isBelow) notInStruct
  · rcases List.mem_cons.mp inPart with rfl | isBelow
    · exact absurd rfl notDeclaration
    rcases List.mem_append.mp isBelow with ofParameter | ofBody
    · rw [VariableDecl.kind_of_mem_nodesOf ofParameter] at notDeclaration
      exact absurd rfl notDeclaration
    · obtain ⟨isLess, rfl⟩ := List.getElem?_eq_some_iff.mp isThere
      exact List.mem_append_left _ (List.mem_flatten.mpr
        ⟨_, List.mem_mapIdx.mpr ⟨index, isLess, rfl⟩, ofBody⟩)
  · rcases List.mem_cons.mp inPart with rfl | ofBody
    · exact absurd rfl notDeclaration
    · refine List.mem_append_right _ ?_
      rw [isMain]
      exact ofBody

/-- What stands in a body is below a body that stands in the program. -/
theorem exists_body_of_mem_bodyNodes
    (isNode : node ∈ program.bodyNodes) :
    ∃ number address statement, program.Stands number address [] [] statement ∧
      node ∈ statement.nodes address := by
  rcases List.mem_append.mp isNode with inFunction | inMain
  · obtain ⟨part, isPart, inPart⟩ := List.mem_flatten.mp inFunction
    obtain ⟨index, isThere, rfl⟩ := List.mem_mapIdx.mp isPart
    exact ⟨index, _, _, Stands.function (List.getElem?_eq_getElem isThere), inPart⟩
  · cases isMain : program.main? with
    | none =>
        rw [isMain] at inMain
        cases inMain
    | some declaration =>
        rw [isMain] at inMain
        exact ⟨_, _, _, Stands.main isMain, inMain⟩

/-- Every node of a program that is an expression and not below a struct is one of a body. -/
theorem exists_seesNode
    (written : program.Written) (isNode : node ∈ program.nodes)
    (isExpression : node.kind.isExpression) (notInStruct : ¬ [0] <:+ node.address) :
    ∃ number regions, program.SeesNode number regions node := by
  have inBodies := mem_bodyNodes isNode (NodeKind.not_isDeclaration_of_isExpression isExpression)
    notInStruct
  obtain ⟨number, address, statement, stands, inBody⟩ := exists_body_of_mem_bodyNodes inBodies
  exact ⟨number, stands.sees_of_mem_nodes written inBody isExpression⟩

theorem exists_sees_of_name
    (written : program.Written) (isNode : node ∈ program.nodes) (isName : node.kind = .nameExpr)
    (notInStruct : ¬ [0] <:+ node.address) :
    ∃ number regions, program.Sees number node.address regions (.name node.name node.position) := by
  have isExpression : node.kind.isExpression := isName ▸ rfl
  obtain ⟨number, regions, expression, sees, isHead⟩ :=
    exists_seesNode written isNode isExpression notInStruct
  obtain ⟨address, kind, name, position⟩ := node
  cases expression with
  | name =>
      cases isHead
      exact ⟨number, regions, sees⟩
  | stray | absent => exact (sees.written written).elim
  | _ =>
      cases isHead
      cases isName

theorem exists_sees_of_call
    (written : program.Written) (isNode : node ∈ program.nodes) (isCall : node.kind = .callExpr)
    (notInStruct : ¬ [0] <:+ node.address) :
    ∃ number regions callee arguments,
      program.Sees number node.address regions (.call callee arguments node.position) := by
  have isExpression : node.kind.isExpression := isCall ▸ rfl
  obtain ⟨number, regions, expression, sees, isHead⟩ :=
    exists_seesNode written isNode isExpression notInStruct
  obtain ⟨address, kind, name, position⟩ := node
  cases expression with
  | call callee arguments =>
      cases isHead
      exact ⟨number, regions, callee, arguments, sees⟩
  | stray | absent => exact (sees.written written).elim
  | _ =>
      cases isHead
      cases isCall

end Program

end StructLang
