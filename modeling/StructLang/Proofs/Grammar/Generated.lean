import StructLang.Proofs.Grammar.Printed
import StructLang.Proofs.Grammar.Programs

/-!
# Derivations of trees as derivations of the committed grammar

The derivations of trees take any expression as the left side of an assignment, the committed
grammar only a postfix expression. A tree whose assignments all have postfix expressions on their
left is derived from tokens only if the committed grammar derives those tokens.
-/

namespace StructLang

/-- An expression that no operator binds outside of parentheses. -/
def Expr.IsChained : Expr → Prop
  | binary .. | unary .. => False
  | _ => True

mutual

/-- The left sides of all assignments in a statement are postfix expressions. -/
def Stmt.TargetsAreChained : Stmt → Prop
  | .block statements _ => Stmt.AllTargetsAreChained statements
  | .assign target _ _ => target.IsChained
  | .branch _ thenBody elseBody _ => thenBody.TargetsAreChained ∧ elseBody.TargetsAreChained
  | .loop _ body _ => body.TargetsAreChained
  | .accessor _ _ _ _ setBody getBody _ =>
      setBody.TargetsAreChained ∧ getBody.TargetsAreChained
  | _ => True

/-- The left sides of all assignments in some statements are postfix expressions. -/
def Stmt.AllTargetsAreChained : List Stmt → Prop
  | [] => True
  | head :: tail => head.TargetsAreChained ∧ Stmt.AllTargetsAreChained tail

end

/-- The left sides of all assignments in a program are postfix expressions. -/
structure Program.TargetsAreChained (program : Program) : Prop where
  structs : ∀ declaration ∈ program.structs, Stmt.AllTargetsAreChained declaration.members
  functions : ∀ declaration ∈ program.functions, declaration.body.TargetsAreChained
  main : ∀ declaration, program.main? = some declaration → declaration.body.TargetsAreChained

namespace Grammar

variable {tokens middle rest : List Token}

/-! ## Types and parameters -/

mutual

theorem matches_of_derivesType
    {tokens rest : List Token} {type : Ty} :
    DerivesType tokens type rest → Matches committed (.rule .type) tokens rest
  | .int kind => .rule (.one (.token kind))
  | .bool kind => .rule (.other (.one (.token kind)))
  | .void kind => .rule (.other (.other (.one (.token kind))))
  | .struct kind => .rule (.other (.other (.other (.one (.token kind)))))
  | .list isList isOpening derives isClosing =>
      .rule (.other (.other (.other (.other (.one (.pair (.token isList)
        (.pair (.token isOpening)
          (.pair (matches_of_derivesType derives) (.token isClosing)))))))))
  | .fptr isFptr isOpening derivesParameters isArrow derivesResult isClosing =>
      .rule (.other (.other (.other (.other (.other (.pair (.token isFptr)
        (.pair (.token isOpening) (.pair (matches_of_derivesParameterTypes derivesParameters)
          (.pair (.token isArrow)
            (.pair (matches_of_derivesType derivesResult) (.token isClosing)))))))))))

theorem matches_of_derivesParameterTypes
    {tokens rest : List Token} {types : List Ty} :
    DerivesParameterTypes tokens types rest →
      Matches committed (.either (.kind .voidWord) (.series (.rule .type))) tokens rest
  | .none isVoid => .one (.token isVoid)
  | .some derives _ => .other (matches_of_derivesTypes derives)

theorem matches_of_derivesTypes
    {tokens rest : List Token} {types : List Ty} :
    DerivesTypes tokens types rest →
      Matches committed (.series (.rule .type)) tokens rest
  | .last derives => .series_last (matches_of_derivesType derives)
  | .more derives isComma derivesMore =>
      .series_more (matches_of_derivesType derives) isComma
        (matches_of_derivesTypes derivesMore)

end

theorem matches_of_derivesSeries
    {alpha : Type} {item : List Token → alpha → List Token → Prop} {pattern : Pattern Rule}
    {items : List alpha} (derives : DerivesSeries item tokens items rest)
    (each : ∀ tokens found rest, item tokens found rest →
      Matches committed pattern tokens rest) :
    Matches committed (.series pattern) tokens rest := by
  induction derives with
  | last derives => exact .series_last (each _ _ _ derives)
  | more derives isComma _ inductionHypothesis =>
      exact .series_more (each _ _ _ derives) isComma inductionHypothesis

theorem matches_of_derivesParameters
    {parameters : List VariableDecl} (derives : DerivesParameters tokens parameters rest) :
    Matches committed .parameterList tokens rest := by
  cases derives with
  | none isOpening isClosing =>
      exact .pair (.token isOpening) (.pair (.one .empty) (.token isClosing))
  | some isOpening derives isClosing =>
      refine .pair (.token isOpening) (.pair (.other (.rule ?_)) (.token isClosing))
      refine matches_of_derivesSeries derives fun _ _ _ derives => ?_
      cases derives with
      | parameter derives isName =>
          exact .pair (matches_of_derivesType derives) (.token isName)

theorem matches_of_derivesVariables
    {declared : List VariableDecl} (derives : DerivesVariables tokens declared rest) :
    Matches committed .declaredNames tokens rest := by
  cases derives with
  | ofNames derivesType derivesNames isSemicolon =>
      have names : Matches committed (.series (.kind .identifier)) _ _ :=
        matches_of_derivesSeries derivesNames fun _ _ _ ⟨shape, isName⟩ => shape ▸ .token isName
      exact .pair (matches_of_derivesType derivesType) (.pair names (.token isSemicolon))

/-! ## Expressions -/

/-- The rule of an expression of a form. -/
def ExprForm.rule : ExprForm → Rule
  | level precedence => .level precedence
  | signed => .unary
  | chained => .chained
  | primary => .primary

theorem ExprForm.rule_operand
    (precedence : Precedence) :
    (ExprForm.operand precedence).rule = .operand precedence := by
  cases precedence <;> rfl

theorem Pattern.matches_operators
    {precedence : Precedence} {operator : BinaryOp} {mark : Token}
    (isOperator : precedence.operator? mark.kind = some operator) :
    Matches committed (operators precedence) (mark :: rest) rest := by
  unfold Precedence.operator? at isOperator
  split at isOperator
  case h_1 isKind | h_2 isKind | h_3 isKind => exact .token isKind
  case h_4 isKind | h_6 isKind | h_8 isKind => exact .one (.token isKind)
  case h_5 isKind | h_7 isKind | h_9 isKind => exact .other (.token isKind)
  case h_10 => cases isOperator

theorem matches_level_operation
    {precedence : Precedence} {operator : BinaryOp} {mark : Token}
    (isLeft : Matches committed (.rule (.level precedence)) tokens (mark :: middle))
    (isOperator : precedence.operator? mark.kind = some operator)
    (isRight : Matches committed (.rule (.operand precedence)) middle rest) :
    Matches committed (.rule (.level precedence)) tokens rest := by
  cases isLeft with
  | rule isLeft => cases isLeft with
    | pair isFirst isMore =>
        exact .rule (.pair isFirst
          (isMore.repeated_snoc (.pair (Pattern.matches_operators isOperator) isRight)))

/-- What the committed grammar derives for an expression of a form. A postfix expression can be
called unless it names an operation on lists. -/
def IsGenerated (expression : Expr) (tokens rest : List Token) : ExprForm → Prop
  | .chained => Matches committed (.rule .chained) tokens rest ∧
      (¬ NamesListOperation expression → Matches committed (.rule .callable) tokens rest)
  | form => Matches committed (.rule form.rule) tokens rest

theorem IsGenerated.rule
    {expression : Expr} : {form : ExprForm} → IsGenerated expression tokens rest form →
      Matches committed (.rule form.rule) tokens rest
  | .level _, generated | .signed, generated | .primary, generated => generated
  | .chained, generated => generated.1

theorem isGenerated_callable
    {expression : Expr} (isCallable : Matches committed (.rule .callable) tokens rest) :
    IsGenerated expression tokens rest .chained :=
  ⟨.rule (.one isCallable), fun _ => isCallable⟩

/-- A member is callable unless it is called like an operation on lists. -/
theorem isGenerated_member
    {dot name : Token} {owner : Expr} {position : Position}
    (isOwner : Matches committed (.rule .chained) tokens (dot :: name :: rest))
    (isDot : dot.kind = .dot) (isName : name.kind = .identifier) :
    IsGenerated (.member owner name.text position) tokens rest .chained := by
  by_cases isAppend : name.text = "append"
  · refine ⟨.rule (.other (.one (.pair isOwner
      (.pair (.token isDot) (.token ⟨isName, isAppend⟩))))), fun noOperation => ?_⟩
    exact absurd (isAppend ▸ .append owner position) noOperation
  by_cases isSize : name.text = "size"
  · refine ⟨.rule (.other (.other (.pair isOwner
      (.pair (.token isDot) (.token ⟨isName, isSize⟩))))), fun noOperation => ?_⟩
    exact absurd (isSize ▸ .size owner position) noOperation
  · exact isGenerated_callable (.rule (.other (.other (.other (.other (.other (.pair isOwner
      (.pair (.token isDot) (.token ⟨isName, isAppend, isSize⟩)))))))))

theorem matches_appended
    {dot name opening closing : Token}
    (isDot : dot.kind = .dot) (isName : name.kind = .identifier) (isAppend : name.text = "append")
    (isOpening : opening.kind = .leftParen)
    (isElement : Matches committed (.rule .expression) middle (closing :: rest))
    (isClosing : closing.kind = .rightParen) :
    Matches committed .appended (dot :: name :: opening :: middle) rest :=
  .pair (.token isDot) (.pair (.token ⟨isName, isAppend⟩)
    (.pair (.token isOpening) (.pair isElement (.token isClosing))))

theorem matches_sized
    {dot name opening closing : Token}
    (isDot : dot.kind = .dot) (isName : name.kind = .identifier) (isSize : name.text = "size")
    (isOpening : opening.kind = .leftParen) (isClosing : closing.kind = .rightParen) :
    Matches committed .sized (dot :: name :: opening :: closing :: rest) rest :=
  .pair (.token isDot) (.pair (.token ⟨isName, isSize⟩)
    (.pair (.token isOpening) (.pair .empty (.token isClosing))))

mutual

theorem isGenerated_of_derivesExpr
    {form : ExprForm} {tokens rest : List Token} {expression : Expr} :
    DerivesExpr form tokens expression rest → IsGenerated expression tokens rest form
  | @DerivesExpr.operand precedence _ _ _ derives =>
      Matches.rule (.pair
        (ExprForm.rule_operand precedence ▸ (isGenerated_of_derivesExpr derives).rule) .none)
  | @DerivesExpr.operation precedence _ _ _ _ _ _ _ derivesLeft isOperator derivesRight =>
      matches_level_operation (isGenerated_of_derivesExpr derivesLeft).rule isOperator
        (ExprForm.rule_operand precedence ▸ (isGenerated_of_derivesExpr derivesRight).rule)
  | .unsigned derives => Matches.rule (.other (isGenerated_of_derivesExpr derives).rule)
  | .invert isBang derives =>
      Matches.rule (.one (.pair (.other (.token isBang)) (isGenerated_of_derivesExpr derives)))
  | .negate isMinus derives =>
      Matches.rule (.one (.pair (.one (.token isMinus)) (isGenerated_of_derivesExpr derives)))
  | .primary derives => isGenerated_callable (.rule (.one (isGenerated_of_derivesExpr derives)))
  | .call derives noOperation isOpening derivesArguments isClosing =>
      isGenerated_callable (.rule (.other (.one (.pair
        ((isGenerated_of_derivesExpr derives).2 noOperation)
        (.pair (.token isOpening)
          (.pair (matches_of_derivesArguments derivesArguments) (.token isClosing)))))))
  | .index derives isOpening derivesPlace isClosing =>
      isGenerated_callable (.rule (.other (.other (.one (.pair
        (isGenerated_of_derivesExpr derives).1
        (.pair (.token isOpening)
          (.pair (isGenerated_of_derivesExpr derivesPlace).rule (.token isClosing))))))))
  | .append derives isDot isName isAppend isOpening derivesElement isClosing =>
      isGenerated_callable (.rule (.other (.other (.other (.one (.pair
        (isGenerated_of_derivesExpr derives).1
        (matches_appended isDot isName isAppend isOpening
          (isGenerated_of_derivesExpr derivesElement) isClosing)))))))
  | .size derives isDot isName isSize isOpening isClosing =>
      isGenerated_callable (.rule (.other (.other (.other (.other (.one (.pair
        (isGenerated_of_derivesExpr derives).1
        (matches_sized isDot isName isSize isOpening isClosing))))))))
  | .member derives isDot isName =>
      isGenerated_member (isGenerated_of_derivesExpr derives).1 isDot isName
  | .integer isInteger _ => Matches.rule (.one (.token isInteger))
  | .true isWord => Matches.rule (.other (.one (.token isWord)))
  | .false isWord => Matches.rule (.other (.other (.one (.token isWord))))
  | .name isName => Matches.rule (.other (.other (.other (.one (.token isName)))))
  | .group isOpening derives isClosing =>
      Matches.rule (.other (.other (.other (.other (.pair (.token isOpening)
        (.pair (matches_of_derivesItems derives) (.token isClosing)))))))

theorem matches_of_derivesArguments
    {tokens rest : List Token} {arguments : List Expr} :
    DerivesArguments tokens arguments rest →
      Matches committed (.optional (.series (.rule .expression))) tokens rest
  | .none => .one .empty
  | .some derives => .other (matches_of_derivesItems derives)

theorem matches_of_derivesItems
    {tokens rest : List Token} {items : List Expr} :
    DerivesItems tokens items rest →
      Matches committed (.series (.rule .expression)) tokens rest
  | .last derives => .series_last (isGenerated_of_derivesExpr derives)
  | .more derives isComma derivesMore =>
      .series_more (isGenerated_of_derivesExpr derives) isComma
        (matches_of_derivesItems derivesMore)

end

/-- A postfix expression that stands for a whole expression has no operator outside of it. -/
theorem DerivesExpr.toChained
    {form : ExprForm} {tokens rest : List Token} {expression : Expr} :
    DerivesExpr form tokens expression rest → expression.IsChained →
      DerivesExpr .chained tokens expression rest
  | .operand derives, isChained | .unsigned derives, isChained =>
      derives.toChained isChained
  | .operation .., isChained | .invert .., isChained | .negate .., isChained => isChained.elim
  | .primary derives, _ => .primary derives
  | .call derives noOperation isOpening derivesArguments isClosing, _ =>
      .call derives noOperation isOpening derivesArguments isClosing
  | .index derives isOpening derivesPlace isClosing, _ =>
      .index derives isOpening derivesPlace isClosing
  | .append derives isDot isName isAppend isOpening derivesElement isClosing, _ =>
      .append derives isDot isName isAppend isOpening derivesElement isClosing
  | .size derives isDot isName isSize isOpening isClosing, _ =>
      .size derives isDot isName isSize isOpening isClosing
  | .member derives isDot isName, _ => .member derives isDot isName
  | .integer isInteger hasValue, _ => .primary (.integer isInteger hasValue)
  | .true isWord, _ => .primary (.true isWord)
  | .false isWord, _ => .primary (.false isWord)
  | .name isName, _ => .primary (.name isName)
  | .group isOpening derives isClosing, _ => .primary (.group isOpening derives isClosing)

theorem matches_of_derivesExpr
    {expression : Expr} (derives : DerivesExpr .whole tokens expression rest) :
    Matches committed (.rule .expression) tokens rest :=
  isGenerated_of_derivesExpr derives

theorem matches_of_isChained
    {expression : Expr} (derives : DerivesExpr .whole tokens expression rest)
    (isChained : expression.IsChained) :
    Matches committed (.rule .chained) tokens rest :=
  (isGenerated_of_derivesExpr (derives.toChained isChained)).1

/-! ## Statements -/

theorem matches_of_derivesCondition
    {condition : Expr} (derives : DerivesCondition tokens condition rest) :
    Matches committed (.parenthesized (.rule .expression)) tokens rest := by
  cases derives with
  | condition isOpening derives isClosing =>
      exact .pair (.token isOpening) (.pair (matches_of_derivesExpr derives) (.token isClosing))

/-- A call that stands for a whole expression. -/
theorem matches_effect_call
    {callee : Expr} {arguments : List Expr} {position : Position}
    (derives : DerivesExpr .whole tokens (.call callee arguments position) rest) :
    Matches committed .effect tokens rest := by
  cases derives.toChained trivial with
  | primary derives => cases derives
  | call derivesCallee noOperation isOpening derivesArguments isClosing =>
      exact .one (.pair ((isGenerated_of_derivesExpr derivesCallee).2 noOperation)
        (.pair (.token isOpening)
          (.pair (matches_of_derivesArguments derivesArguments) (.token isClosing))))

theorem matches_effect_append
    {list element : Expr} {position : Position}
    (derives : DerivesExpr .whole tokens (.append list element position) rest) :
    Matches committed .effect tokens rest := by
  cases derives.toChained trivial with
  | primary derives => cases derives
  | append derivesList isDot isName isAppend isOpening derivesElement isClosing =>
      exact .other (.one (.pair (isGenerated_of_derivesExpr derivesList).1
        (matches_appended isDot isName isAppend isOpening (matches_of_derivesExpr derivesElement)
          isClosing)))

theorem matches_effect_size
    {list : Expr} {position : Position}
    (derives : DerivesExpr .whole tokens (.size list position) rest) :
    Matches committed .effect tokens rest := by
  cases derives.toChained trivial with
  | primary derives => cases derives
  | size derivesList isDot isName isSize isOpening isClosing =>
      exact .other (.other (.pair (isGenerated_of_derivesExpr derivesList).1
        (matches_sized isDot isName isSize isOpening isClosing)))

theorem matches_statement_effect
    {semicolon : Token} (isEffect : Matches committed .effect tokens (semicolon :: rest))
    (isSemicolon : semicolon.kind = .semicolon) :
    Matches committed (.rule .statement) tokens rest :=
  .rule (.other (.other (.other (.other (.other (.other (.other
    (.pair isEffect (.token isSemicolon)))))))))

mutual

theorem matches_of_derivesStmt
    {tokens rest : List Token} {statement : Stmt} :
    DerivesStmt tokens statement rest → statement.TargetsAreChained →
      Matches committed (.rule .statement) tokens rest
  | .block derives, targets => .rule (.one (matches_of_derivesBlock derives targets))
  | .declare derives, _ =>
      .rule (.other (.one (.rule (matches_of_derivesVariables derives))))
  | .assign derivesTarget isMark derivesValue isSemicolon, targets =>
      .rule (.other (.other (.other (.other (.other (.other (.one
        (.pair (matches_of_isChained derivesTarget targets) (.pair (.token isMark)
          (.pair (matches_of_derivesExpr derivesValue) (.token isSemicolon)))))))))))
  | .call derives isSemicolon, _ =>
      matches_statement_effect (matches_effect_call derives) isSemicolon
  | .append derives isSemicolon, _ =>
      matches_statement_effect (matches_effect_append derives) isSemicolon
  | .size derives isSemicolon, _ =>
      matches_statement_effect (matches_effect_size derives) isSemicolon
  | .branch isIf derivesCondition derivesThen, targets =>
      .rule (.other (.other (.one (.pair (.token isIf)
        (.pair (matches_of_derivesCondition derivesCondition)
          (.pair (matches_of_derivesStmt derivesThen targets.1) (.one .empty)))))))
  | .branchElse isIf derivesCondition derivesThen _ isElse derivesElse, targets =>
      .rule (.other (.other (.one (.pair (.token isIf)
        (.pair (matches_of_derivesCondition derivesCondition)
          (.pair (matches_of_derivesStmt derivesThen targets.1)
            (.other (.pair (.token isElse)
              (matches_of_derivesStmt derivesElse targets.2)))))))))
  | .loop isWhile derivesCondition derivesBody, targets =>
      .rule (.other (.other (.other (.one (.pair (.token isWhile)
        (.pair (matches_of_derivesCondition derivesCondition)
          (matches_of_derivesStmt derivesBody targets)))))))
  | .display isDisplay derives isSemicolon, _ =>
      .rule (.other (.other (.other (.other (.one (.pair (.token isDisplay)
        (.pair (matches_of_derivesCondition derives) (.token isSemicolon))))))))
  | .giveBackNothing isReturn isSemicolon, _ =>
      .rule (.other (.other (.other (.other (.other (.one (.pair (.token isReturn)
        (.pair (.one .empty) (.token isSemicolon)))))))))
  | .giveBack isReturn derives isSemicolon, _ =>
      .rule (.other (.other (.other (.other (.other (.one (.pair (.token isReturn)
        (.pair (.other (matches_of_derivesExpr derives)) (.token isSemicolon)))))))))

theorem matches_of_derivesBlock
    {tokens rest : List Token} {statement : Stmt} :
    DerivesBlock tokens statement rest → statement.TargetsAreChained →
      Matches committed (.rule .block) tokens rest
  | .block isOpening derives isClosing, targets =>
      .rule (.pair (.token isOpening)
        (.pair (matches_of_derivesStmts derives targets) (.token isClosing)))

theorem matches_of_derivesStmts
    {tokens rest : List Token} {statements : List Stmt} :
    DerivesStmts tokens statements rest → Stmt.AllTargetsAreChained statements →
      Matches committed (.repeated (.rule .statement)) tokens rest
  | .none, _ => .none
  | .more derives derivesMore, targets =>
      .more (matches_of_derivesStmt derives targets.1)
        (matches_of_derivesStmts derivesMore targets.2)

end

/-! ## Programs -/

theorem matches_of_derivesAccessorBlocks
    {setBody getBody : Stmt} (derives : DerivesAccessorBlocks tokens setBody getBody rest)
    (setTargets : setBody.TargetsAreChained) (getTargets : getBody.TargetsAreChained) :
    Matches committed .accessorBlocks tokens rest := by
  cases derives with
  | setFirst isSet derivesSet isGet derivesGet =>
      exact .one (.pair (.token isSet) (.pair (matches_of_derivesBlock derivesSet setTargets)
        (.pair (.token isGet) (matches_of_derivesBlock derivesGet getTargets))))
  | getFirst isGet derivesGet isSet derivesSet =>
      exact .other (.pair (.token isGet) (.pair (matches_of_derivesBlock derivesGet getTargets)
        (.pair (.token isSet) (matches_of_derivesBlock derivesSet setTargets))))

theorem matches_of_derivesMember
    {member : Stmt} (derives : DerivesMember tokens member rest)
    (targets : member.TargetsAreChained) :
    Matches committed (.rule .member) tokens rest := by
  cases derives with
  | fields derives => exact .rule (.one (matches_of_derivesVariables derives))
  | accessor derivesType isName derivesParameters isOpening derivesBlocks isClosing =>
      exact .rule (.other (.pair (matches_of_derivesType derivesType) (.pair (.token isName)
        (.pair (matches_of_derivesParameters derivesParameters) (.pair (.token isOpening)
          (.pair (matches_of_derivesAccessorBlocks derivesBlocks targets.1 targets.2)
            (.token isClosing)))))))

theorem matches_of_derivesMembers
    {members : List Stmt} (derives : DerivesMembers tokens members rest)
    (targets : Stmt.AllTargetsAreChained members) :
    Matches committed (.repeated (.rule .member)) tokens rest := by
  induction derives with
  | none => exact .none
  | more derives _ inductionHypothesis =>
      exact .more (matches_of_derivesMember derives targets.1) (inductionHypothesis targets.2)

theorem matches_of_derivesStruct
    {declaration : StructDecl} (derives : DerivesStruct tokens declaration rest)
    (targets : Stmt.AllTargetsAreChained declaration.members) :
    Matches committed (.rule .structDecl) tokens rest := by
  cases derives with
  | struct isWord isName isOpening derives isClosing =>
      exact .rule (.pair (.token isWord) (.pair (.token isName) (.pair (.token isOpening)
        (.pair (matches_of_derivesMembers derives targets) (.token isClosing)))))

theorem matches_of_derivesFunction
    {declaration : FunctionDecl} (derives : DerivesFunction tokens declaration rest)
    (targets : declaration.body.TargetsAreChained) :
    Matches committed (.rule .functionDecl) tokens rest := by
  cases derives with
  | function isWord isName derivesParameters derivesResult derivesBody =>
      exact .rule (.pair (.token isWord) (.pair (.token isName)
        (.pair (matches_of_derivesParameters derivesParameters)
          (.pair (matches_of_derivesType derivesResult)
            (matches_of_derivesBlock derivesBody targets)))))

theorem matches_of_derivesDeclarations
    {structs : List StructDecl} {functions : List FunctionDecl}
    (derives : DerivesDeclarations tokens structs functions rest)
    (structTargets : ∀ declaration ∈ structs, Stmt.AllTargetsAreChained declaration.members)
    (functionTargets : ∀ declaration ∈ functions, declaration.body.TargetsAreChained) :
    Matches committed (.repeated (.either (.rule .structDecl) (.rule .functionDecl)))
      tokens rest := by
  induction derives with
  | none => exact .none
  | struct derives _ inductionHypothesis =>
      obtain ⟨head, tail⟩ := List.forall_mem_cons.mp structTargets
      exact .more (.one (matches_of_derivesStruct derives head))
        (inductionHypothesis tail functionTargets)
  | function derives _ inductionHypothesis =>
      obtain ⟨head, tail⟩ := List.forall_mem_cons.mp functionTargets
      exact .more (.other (matches_of_derivesFunction derives head))
        (inductionHypothesis structTargets tail)

/-- The committed grammar derives every program whose assignments have postfix expressions on
their left, together with the token that ends the text. -/
theorem matches_of_derivesProgram
    {program : Program} {finish : Token} (derives : DerivesProgram tokens program)
    (targets : program.TargetsAreChained) (isFinish : finish.kind = .finish) :
    Matches committed (.rule .program) (tokens ++ [finish]) [] := by
  cases derives with
  | program derives isMain derivesBody =>
      have isWhole : Matches committed
          (.pair (.repeated (.either (.rule .structDecl) (.rule .functionDecl)))
            (.rule .mainDecl)) tokens [] :=
        .pair (matches_of_derivesDeclarations derives targets.structs targets.functions)
          (.rule (.pair (.token isMain)
            (matches_of_derivesBlock derivesBody (targets.main _ rfl))))
      obtain ⟨piece, shape, isMatch⟩ := isWhole.exists_piece
      rw [List.append_nil] at shape
      cases shape ▸ isMatch [finish] with
      | pair isDeclarations isMainDecl =>
          exact .rule (.pair isDeclarations (.pair isMainDecl (.token isFinish)))

end Grammar

end StructLang
