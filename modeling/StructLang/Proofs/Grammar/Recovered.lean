import StructLang.Proofs.Grammar.Generated

/-!
# Trees from derivations of the committed grammar

What the committed grammar derives is the text of a tree. The meaning of every rule is that there
is such a tree, and these meanings are closed under the rules. The rules do not say to which `if`
an `else` belongs; where they give it to an outer one, the tree has it at the nearest that is
open. Nor do they say that a lone `void` stands for no parameters.
-/

namespace StructLang

/-- If the token is an integer, it has a value. -/
def Token.HasValue (token : Token) : Prop :=
  token.kind = .integer → ∃ value, Text.readNumeral token.text = .ok value

namespace Grammar

variable {tokens middle rest : List Token}

/-- There is a tree of the rule's kind with this text, and its assignments all have postfix
expressions on their left. No rule asks for a program. -/
def Recovers : Rule → List Token → List Token → Prop
  | .program, _, _ => True
  | .structDecl, tokens, rest =>
      ∃ declaration, DerivesStruct tokens declaration rest ∧
        Stmt.AllTargetsAreChained declaration.members
  | .member, tokens, rest =>
      ∃ member, DerivesMember tokens member rest ∧ member.TargetsAreChained
  | .functionDecl, tokens, rest =>
      ∃ declaration, DerivesFunction tokens declaration rest ∧
        declaration.body.TargetsAreChained
  | .mainDecl, tokens, rest =>
      ∃ word middle body, tokens = word :: middle ∧ word.kind = .mainWord ∧
        DerivesBlock middle body rest ∧ body.TargetsAreChained
  | .parameters, tokens, rest =>
      ∃ parameters, DerivesSeries DerivesParameter tokens parameters rest
  | .type, tokens, rest => ∃ type, DerivesType tokens type rest
  | .block, tokens, rest =>
      ∃ statement, DerivesBlock tokens statement rest ∧ statement.TargetsAreChained
  | .declaration, tokens, rest => ∃ declared, DerivesVariables tokens declared rest
  | .statement, tokens, rest =>
      ∃ statement, DerivesStmt tokens statement rest ∧ statement.TargetsAreChained
  | .level precedence, tokens, rest =>
      ∃ expression, DerivesExpr (.level precedence) tokens expression rest
  | .unary, tokens, rest => ∃ expression, DerivesExpr .signed tokens expression rest
  | .chained, tokens, rest => ∃ expression, DerivesExpr .chained tokens expression rest
  | .callable, tokens, rest =>
      ∃ expression, DerivesExpr .chained tokens expression rest ∧
        ¬ NamesListOperation expression
  | .primary, tokens, rest => ∃ expression, DerivesExpr .primary tokens expression rest

/-! ## Runs of items -/

section Runs

variable {alpha : Type} {pattern : Pattern Rule} {item : List Token → alpha → List Token → Prop}
  {items : List Token → List alpha → List Token → Prop}

/-- Items with commas between them are collected from the last one on. -/
theorem recovers_series
    (each : ∀ {tokens rest : List Token}, pattern.Holds Recovers tokens rest →
      ∃ found, item tokens found rest)
    (last : ∀ {tokens rest : List Token} {found : alpha}, item tokens found rest →
      items tokens [found] rest)
    (more : ∀ {comma : Token} {tokens middle rest : List Token} {head : alpha}
      {tail : List alpha}, item tokens head (comma :: middle) → comma.kind = .comma →
        items middle tail rest → items tokens (head :: tail) rest)
    (holds : (Pattern.series pattern).Holds Recovers tokens rest) :
    ∃ found, items tokens found rest := by
  refine Pattern.Holds.series_induction ?_ ?_ holds
  · intro tokens isItem
    obtain ⟨found, derives⟩ := each isItem
    exact ⟨[found], last derives⟩
  · rintro tokens comma middle isItem isComma ⟨others, derivesMore⟩
    obtain ⟨found, derives⟩ := each isItem
    exact ⟨found :: others, more derives isComma derivesMore⟩

/-- Items one after the other are collected from the last one on. -/
theorem recovers_repeated
    (items : List Token → List alpha → List Token → Prop)
    (each : ∀ {tokens rest : List Token}, pattern.Holds Recovers tokens rest →
      ∃ found, item tokens found rest)
    (none : ∀ {rest : List Token}, items rest [] rest)
    (more : ∀ {tokens middle rest : List Token} {head : alpha} {tail : List alpha},
      item tokens head middle → items middle tail rest → items tokens (head :: tail) rest)
    (holds : (Pattern.repeated pattern).Holds Recovers tokens rest) :
    ∃ found, items tokens found rest := by
  induction holds using Relation.ReflTransGen.head_induction_on with
  | refl => exact ⟨[], none⟩
  | head isHead _ inductionHypothesis =>
      obtain ⟨head, derives⟩ := each isHead
      obtain ⟨tail, derivesMore⟩ := inductionHypothesis
      exact ⟨head :: tail, more derives derivesMore⟩

end Runs

/-! ## Types and parameters -/

theorem recovers_types
    (holds : (Pattern.series (.rule .type)).Holds Recovers tokens rest) :
    ∃ types, DerivesTypes tokens types rest :=
  recovers_series id .last .more holds

/-- A lone `void` is read as no parameters, whichever rule it came from. -/
theorem recovers_parameterTypes
    (holds : (Pattern.either (.kind .voidWord) (.series (.rule .type))).Holds Recovers
      tokens rest) :
    ∃ types, DerivesParameterTypes tokens types rest := by
  rcases holds with ⟨word, isVoid, rfl⟩ | holds
  · exact ⟨[], .none isVoid⟩
  obtain ⟨types, derives⟩ := recovers_types holds
  by_cases loneVoid : types = [.void]
  · subst loneVoid
    cases derives with
    | last derives => cases derives with
      | void isVoid => exact ⟨[], .none isVoid⟩
    | more _ _ derivesMore => cases derivesMore
  · exact ⟨types, .some derives loneVoid⟩

theorem recovers_type
    (holds : (committed .type).Holds Recovers tokens rest) : Recovers .type tokens rest := by
  rcases holds with ⟨word, kind, rfl⟩ | ⟨word, kind, rfl⟩ | ⟨word, kind, rfl⟩ |
    ⟨word, kind, rfl⟩ |
    ⟨_, ⟨word, kind, rfl⟩, _, ⟨opening, isOpening, rfl⟩, _, ⟨element, derives⟩,
      ⟨closing, isClosing, rfl⟩⟩ |
    ⟨_, ⟨word, kind, rfl⟩, _, ⟨opening, isOpening, rfl⟩, _, holds, _, ⟨arrow, isArrow, rfl⟩, _,
      ⟨result, derivesResult⟩, ⟨closing, isClosing, rfl⟩⟩
  · exact ⟨_, .int kind⟩
  · exact ⟨_, .bool kind⟩
  · exact ⟨_, .void kind⟩
  · exact ⟨_, .struct kind⟩
  · exact ⟨_, .list kind isOpening derives isClosing⟩
  · obtain ⟨types, derives⟩ := recovers_parameterTypes holds
    exact ⟨_, .fptr kind isOpening derives isArrow derivesResult isClosing⟩

theorem recovers_parameters
    (holds : (Pattern.series (.pair (.rule .type) (.kind .identifier))).Holds Recovers
      tokens rest) :
    ∃ parameters, DerivesSeries DerivesParameter tokens parameters rest := by
  refine recovers_series ?_ .last .more holds
  rintro tokens rest ⟨_, ⟨type, derives⟩, name, isName, rfl⟩
  exact ⟨_, .parameter derives isName⟩

theorem recovers_parameterList
    (holds : Pattern.parameterList.Holds Recovers tokens rest) :
    ∃ parameters, DerivesParameters tokens parameters rest := by
  obtain ⟨_, ⟨opening, isOpening, rfl⟩, _, rfl | ⟨parameters, derives⟩,
    ⟨closing, isClosing, rfl⟩⟩ := holds
  · exact ⟨[], .none isOpening isClosing⟩
  · exact ⟨parameters, .some isOpening derives isClosing⟩

theorem recovers_names
    (holds : (Pattern.series (.kind .identifier)).Holds Recovers tokens rest) :
    ∃ names, DerivesSeries DerivesName tokens names rest := by
  refine recovers_series ?_ .last .more holds
  rintro tokens rest ⟨name, isName, rfl⟩
  exact ⟨name, rfl, isName⟩

theorem recovers_variables
    (holds : Pattern.declaredNames.Holds Recovers tokens rest) :
    ∃ declared, DerivesVariables tokens declared rest := by
  obtain ⟨_, ⟨type, derivesType⟩, _, holds, ⟨semicolon, isSemicolon, rfl⟩⟩ := holds
  obtain ⟨names, derivesNames⟩ := recovers_names holds
  exact ⟨_, .ofNames derivesType derivesNames isSemicolon⟩

/-! ## Expressions -/

theorem Pattern.Holds.operator
    {precedence : Precedence} (holds : (operators precedence).Holds Recovers tokens rest) :
    ∃ mark operator, tokens = mark :: rest ∧ precedence.operator? mark.kind = some operator := by
  cases precedence with
  | disjunction | conjunction | equality =>
      obtain ⟨mark, isMark, rfl⟩ := holds
      exact ⟨mark, _, rfl, by rw [isMark]; rfl⟩
  | comparison | sum | product =>
      rcases holds with ⟨mark, isMark, rfl⟩ | ⟨mark, isMark, rfl⟩
      · exact ⟨mark, _, rfl, by rw [isMark]; rfl⟩
      · exact ⟨mark, _, rfl, by rw [isMark]; rfl⟩

theorem Recovers.operand
    {precedence : Precedence} (recovers : Recovers (.operand precedence) tokens rest) :
    ∃ expression, DerivesExpr (.operand precedence) tokens expression rest := by
  cases precedence <;> exact recovers

/-- Operations are added to the left operand in the order in which they stand. -/
theorem recovers_level
    {precedence : Precedence}
    (holds : (committed (.level precedence)).Holds Recovers tokens rest) :
    Recovers (.level precedence) tokens rest := by
  obtain ⟨middle, recovers, operations⟩ := holds
  induction operations with
  | refl =>
      obtain ⟨expression, derives⟩ := Recovers.operand recovers
      exact ⟨expression, .operand derives⟩
  | tail _ operation inductionHypothesis =>
      obtain ⟨left, derivesLeft⟩ := inductionHypothesis
      obtain ⟨_, isMark, recovers⟩ := operation
      obtain ⟨mark, operator, rfl, isOperator⟩ := isMark.operator
      obtain ⟨right, derivesRight⟩ := Recovers.operand recovers
      exact ⟨_, .operation derivesLeft isOperator derivesRight⟩

theorem recovers_unary
    (holds : (committed .unary).Holds Recovers tokens rest) : Recovers .unary tokens rest := by
  rcases holds with ⟨_, ⟨sign, isMinus, rfl⟩ | ⟨sign, isBang, rfl⟩, ⟨operand, derives⟩⟩ |
    ⟨expression, derives⟩
  · exact ⟨_, .negate isMinus derives⟩
  · exact ⟨_, .invert isBang derives⟩
  · exact ⟨expression, .unsigned derives⟩

theorem recovers_chained
    (holds : (committed .chained).Holds Recovers tokens rest) :
    Recovers .chained tokens rest := by
  rcases holds with ⟨expression, derives, _⟩ |
    ⟨_, ⟨owner, derives⟩, _, ⟨dot, isDot, rfl⟩, ⟨name, ⟨isName, _⟩, rfl⟩⟩ |
    ⟨_, ⟨owner, derives⟩, _, ⟨dot, isDot, rfl⟩, ⟨name, ⟨isName, _⟩, rfl⟩⟩
  · exact ⟨expression, derives⟩
  · exact ⟨_, .member derives isDot isName⟩
  · exact ⟨_, .member derives isDot isName⟩

theorem recovers_items
    (holds : (Pattern.series (.rule .expression)).Holds Recovers tokens rest) :
    ∃ items, DerivesItems tokens items rest :=
  recovers_series id .last .more holds

/-- A callable expression with the parentheses of a call. -/
theorem recovers_call
    (holds : (Pattern.pair (.rule .callable) .called).Holds Recovers tokens rest) :
    ∃ callee arguments, DerivesExpr .chained tokens (.call callee arguments (placeOf tokens))
      rest := by
  obtain ⟨_, ⟨callee, derives, noOperation⟩, _, ⟨opening, isOpening, rfl⟩, _, holds,
    ⟨closing, isClosing, rfl⟩⟩ := holds
  rcases holds with rfl | holds
  · exact ⟨callee, [], .call derives noOperation isOpening .none isClosing⟩
  · obtain ⟨items, derivesItems⟩ := recovers_items holds
    exact ⟨callee, items, .call derives noOperation isOpening (.some derivesItems) isClosing⟩

theorem recovers_append
    (holds : (Pattern.pair (.rule .chained) .appended).Holds Recovers tokens rest) :
    ∃ list element, DerivesExpr .chained tokens (.append list element (placeOf tokens))
      rest := by
  obtain ⟨_, ⟨list, derives⟩, _, ⟨dot, isDot, rfl⟩, _, ⟨name, ⟨isName, isAppend⟩, rfl⟩, _,
    ⟨opening, isOpening, rfl⟩, _, ⟨element, derivesElement⟩, ⟨closing, isClosing, rfl⟩⟩ := holds
  exact ⟨list, element,
    .append derives isDot isName isAppend isOpening derivesElement isClosing⟩

theorem recovers_size
    (holds : (Pattern.pair (.rule .chained) .sized).Holds Recovers tokens rest) :
    ∃ list, DerivesExpr .chained tokens (.size list (placeOf tokens)) rest := by
  obtain ⟨_, ⟨list, derives⟩, _, ⟨dot, isDot, rfl⟩, _, ⟨name, ⟨isName, isSize⟩, rfl⟩, _,
    ⟨opening, isOpening, rfl⟩, _, rfl, ⟨closing, isClosing, rfl⟩⟩ := holds
  exact ⟨list, .size derives isDot isName isSize isOpening isClosing⟩

theorem recovers_callable
    (holds : (committed .callable).Holds Recovers tokens rest) :
    Recovers .callable tokens rest := by
  rcases holds with ⟨expression, derives⟩ | holds |
    ⟨_, ⟨list, derives⟩, _, ⟨opening, isOpening, rfl⟩, _, ⟨place, derivesPlace⟩,
      ⟨closing, isClosing, rfl⟩⟩ |
    holds | holds |
    ⟨_, ⟨owner, derives⟩, _, ⟨dot, isDot, rfl⟩, ⟨name, ⟨isName, noAppend, noSize⟩, rfl⟩⟩
  · exact ⟨expression, .primary derives, by rintro ⟨⟩ <;> cases derives⟩
  · obtain ⟨callee, arguments, derives⟩ := recovers_call holds
    exact ⟨_, derives, nofun⟩
  · exact ⟨_, .index derives isOpening derivesPlace isClosing, nofun⟩
  · obtain ⟨list, element, derives⟩ := recovers_append holds
    exact ⟨_, derives, nofun⟩
  · obtain ⟨list, derives⟩ := recovers_size holds
    exact ⟨_, derives, nofun⟩
  · refine ⟨_, .member derives isDot isName, fun isOperation => ?_⟩
    generalize called : name.text = text at isOperation
    cases isOperation with
    | append => exact noAppend called
    | size => exact noSize called

theorem recovers_primary
    (haveValues : ∀ token ∈ tokens, token.HasValue)
    (holds : (committed .primary).Holds Recovers tokens rest) :
    Recovers .primary tokens rest := by
  rcases holds with ⟨word, kind, rfl⟩ | ⟨word, kind, rfl⟩ | ⟨word, kind, rfl⟩ |
    ⟨word, kind, rfl⟩ |
    ⟨_, ⟨opening, isOpening, rfl⟩, _, holds, ⟨closing, isClosing, rfl⟩⟩
  · obtain ⟨value, hasValue⟩ := haveValues word List.mem_cons_self kind
    exact ⟨_, .integer kind hasValue⟩
  · exact ⟨_, .true kind⟩
  · exact ⟨_, .false kind⟩
  · exact ⟨_, .name kind⟩
  · obtain ⟨items, derives⟩ := recovers_items holds
    exact ⟨_, .group isOpening derives isClosing⟩

theorem DerivesExpr.isChained
    {expression : Expr} (derives : DerivesExpr .chained tokens expression rest) :
    expression.IsChained := by
  cases derives with
  | primary derives => cases derives <;> trivial
  | _ => trivial

/-! ## Statements -/

/-- An `else` after a statement that ends with an `if` without one belongs to that `if`. -/
theorem attach_else
    {elseWord : Token} {others : List Token} {elseBody : Stmt}
    (isElse : elseWord.kind = .elseWord) (derivesElse : DerivesStmt others elseBody rest)
    (elseTargets : elseBody.TargetsAreChained)
    {tokens before : List Token} {statement : Stmt} :
    DerivesStmt tokens statement before → before = elseWord :: others → EndsOpen statement →
      statement.TargetsAreChained →
      ∃ whole, DerivesStmt tokens whole rest ∧ whole.TargetsAreChained
  | @DerivesStmt.branch _ _ _ _ _ thenBody isIf derivesCondition derivesThen, shape, _,
      targets => by
      by_cases isOpen : EndsOpen thenBody
      · obtain ⟨whole, derives, wholeTargets⟩ :=
          attach_else isElse derivesElse elseTargets derivesThen shape isOpen targets.1
        exact ⟨_, .branch isIf derivesCondition derives, wholeTargets, trivial⟩
      · subst shape
        exact ⟨_, .branchElse isIf derivesCondition derivesThen isOpen isElse derivesElse,
          targets.1, elseTargets⟩
  | .branchElse isIf derivesCondition derivesThen isClosed isInner derivesInner, shape, isOpen,
      targets => by
      cases isOpen with
      | branch => cases derivesInner with
        | block derives => cases derives
      | branchElse _ _ _ innerIsOpen =>
          obtain ⟨whole, derives, wholeTargets⟩ :=
            attach_else isElse derivesElse elseTargets derivesInner shape innerIsOpen targets.2
          exact ⟨_, .branchElse isIf derivesCondition derivesThen isClosed isInner derives,
            targets.1, wholeTargets⟩
  | .loop isWhile derivesCondition derivesBody, shape, isOpen, targets => by
      cases isOpen with
      | loop _ _ bodyIsOpen =>
          obtain ⟨whole, derives, wholeTargets⟩ :=
            attach_else isElse derivesElse elseTargets derivesBody shape bodyIsOpen targets
          exact ⟨_, .loop isWhile derivesCondition derives, wholeTargets⟩
  | .block (.block ..), _, isOpen, _ | .declare _, _, isOpen, _ | .assign .., _, isOpen, _
  | .call .., _, isOpen, _ | .append .., _, isOpen, _ | .size .., _, isOpen, _
  | .display .., _, isOpen, _ | .giveBackNothing .., _, isOpen, _
  | .giveBack .., _, isOpen, _ => nomatch isOpen

theorem recovers_condition
    (holds : (Pattern.parenthesized (.rule .expression)).Holds Recovers tokens rest) :
    ∃ condition, DerivesCondition tokens condition rest := by
  obtain ⟨_, ⟨opening, isOpening, rfl⟩, _, ⟨condition, derives⟩,
    ⟨closing, isClosing, rfl⟩⟩ := holds
  exact ⟨condition, .condition isOpening derives isClosing⟩

theorem recovers_branch
    {word : Token} {condition : Expr} {thenBody : Stmt} {others : List Token}
    (isIf : word.kind = .ifWord) (derivesCondition : DerivesCondition tokens condition middle)
    (derivesThen : DerivesStmt middle thenBody others) (targets : thenBody.TargetsAreChained)
    (holds : (Pattern.optional (.pair (.kind .elseWord) (.rule .statement))).Holds Recovers
      others rest) :
    Recovers .statement (word :: tokens) rest := by
  rcases holds with rfl | ⟨_, ⟨elseWord, isElse, rfl⟩, ⟨elseBody, derivesElse, elseTargets⟩⟩
  · exact ⟨_, .branch isIf derivesCondition derivesThen, targets, trivial⟩
  by_cases isOpen : EndsOpen thenBody
  · obtain ⟨whole, derives, wholeTargets⟩ :=
      attach_else isElse derivesElse elseTargets derivesThen rfl isOpen targets
    exact ⟨_, .branch isIf derivesCondition derives, wholeTargets, trivial⟩
  · exact ⟨_, .branchElse isIf derivesCondition derivesThen isOpen isElse derivesElse, targets,
      elseTargets⟩

theorem recovers_effect
    {semicolon : Token} (isSemicolon : semicolon.kind = .semicolon)
    (holds : Pattern.effect.Holds Recovers tokens (semicolon :: rest)) :
    Recovers .statement tokens rest := by
  rcases holds with holds | holds | holds
  · obtain ⟨callee, arguments, derives⟩ := recovers_call holds
    exact ⟨_, .call derives.ofChained isSemicolon, trivial⟩
  · obtain ⟨list, element, derives⟩ := recovers_append holds
    exact ⟨_, .append derives.ofChained isSemicolon, trivial⟩
  · obtain ⟨list, derives⟩ := recovers_size holds
    exact ⟨_, .size derives.ofChained isSemicolon, trivial⟩

theorem recovers_statement
    (holds : (committed .statement).Holds Recovers tokens rest) :
    Recovers .statement tokens rest := by
  rcases holds with ⟨statement, derives, targets⟩ | ⟨declared, derives⟩ |
    ⟨_, ⟨word, isIf, rfl⟩, _, isCondition, _, ⟨thenBody, derivesThen, targets⟩, holds⟩ |
    ⟨_, ⟨word, isWhile, rfl⟩, _, isCondition, ⟨body, derivesBody, targets⟩⟩ |
    ⟨_, ⟨word, isDisplay, rfl⟩, _, isArgument, ⟨semicolon, isSemicolon, rfl⟩⟩ |
    ⟨_, ⟨word, isReturn, rfl⟩, _, rfl | ⟨value, derives⟩, ⟨semicolon, isSemicolon, rfl⟩⟩ |
    ⟨_, ⟨target, derivesTarget⟩, _, ⟨mark, isMark, rfl⟩, _, ⟨value, derivesValue⟩,
      ⟨semicolon, isSemicolon, rfl⟩⟩ |
    ⟨_, holds, ⟨semicolon, isSemicolon, rfl⟩⟩
  · exact ⟨statement, .block derives, targets⟩
  · exact ⟨_, .declare derives, trivial⟩
  · obtain ⟨condition, derivesCondition⟩ := recovers_condition isCondition
    exact recovers_branch isIf derivesCondition derivesThen targets holds
  · obtain ⟨condition, derivesCondition⟩ := recovers_condition isCondition
    exact ⟨_, .loop isWhile derivesCondition derivesBody, targets⟩
  · obtain ⟨argument, derives⟩ := recovers_condition isArgument
    exact ⟨_, .display isDisplay derives isSemicolon, trivial⟩
  · exact ⟨_, .giveBackNothing isReturn isSemicolon, trivial⟩
  · exact ⟨_, .giveBack isReturn derives isSemicolon, trivial⟩
  · exact ⟨_, .assign derivesTarget.ofChained isMark derivesValue isSemicolon,
      derivesTarget.isChained⟩
  · exact recovers_effect isSemicolon holds

theorem recovers_statements
    (holds : (Pattern.repeated (.rule .statement)).Holds Recovers tokens rest) :
    ∃ statements, DerivesStmts tokens statements rest ∧
      Stmt.AllTargetsAreChained statements := by
  refine recovers_repeated (fun tokens statements rest =>
    DerivesStmts tokens statements rest ∧ Stmt.AllTargetsAreChained statements)
    id ⟨.none, trivial⟩ ?_ holds
  rintro tokens middle rest head tail ⟨derives, headTargets⟩ ⟨derivesMore, tailTargets⟩
  exact ⟨.more derives derivesMore, headTargets, tailTargets⟩

theorem recovers_block
    (holds : (committed .block).Holds Recovers tokens rest) : Recovers .block tokens rest := by
  obtain ⟨_, ⟨opening, isOpening, rfl⟩, _, holds, ⟨closing, isClosing, rfl⟩⟩ := holds
  obtain ⟨statements, derives, targets⟩ := recovers_statements holds
  exact ⟨_, .block isOpening derives isClosing, targets⟩

/-! ## Programs -/

theorem recovers_accessorBlocks
    (holds : Pattern.accessorBlocks.Holds Recovers tokens rest) :
    ∃ setBody getBody, DerivesAccessorBlocks tokens setBody getBody rest ∧
      setBody.TargetsAreChained ∧ getBody.TargetsAreChained := by
  rcases holds with
    ⟨_, ⟨setWord, isSet, rfl⟩, _, ⟨setBody, derivesSet, setTargets⟩, _, ⟨getWord, isGet, rfl⟩,
      ⟨getBody, derivesGet, getTargets⟩⟩ |
    ⟨_, ⟨getWord, isGet, rfl⟩, _, ⟨getBody, derivesGet, getTargets⟩, _, ⟨setWord, isSet, rfl⟩,
      ⟨setBody, derivesSet, setTargets⟩⟩
  · exact ⟨_, _, .setFirst isSet derivesSet isGet derivesGet, setTargets, getTargets⟩
  · exact ⟨_, _, .getFirst isGet derivesGet isSet derivesSet, setTargets, getTargets⟩

theorem recovers_member
    (holds : (committed .member).Holds Recovers tokens rest) : Recovers .member tokens rest := by
  rcases holds with holds |
    ⟨_, ⟨type, derivesType⟩, _, ⟨name, isName, rfl⟩, _, isList, _, ⟨opening, isOpening, rfl⟩, _,
      areBlocks, ⟨closing, isClosing, rfl⟩⟩
  · obtain ⟨declared, derives⟩ := recovers_variables holds
    exact ⟨_, .fields derives, trivial⟩
  · obtain ⟨parameters, derivesParameters⟩ := recovers_parameterList isList
    obtain ⟨setBody, getBody, derivesBlocks, targets⟩ := recovers_accessorBlocks areBlocks
    exact ⟨_, .accessor derivesType isName derivesParameters isOpening derivesBlocks isClosing,
      targets⟩

theorem recovers_members
    (holds : (Pattern.repeated (.rule .member)).Holds Recovers tokens rest) :
    ∃ members, DerivesMembers tokens members rest ∧ Stmt.AllTargetsAreChained members := by
  refine recovers_repeated (fun tokens members rest =>
    DerivesMembers tokens members rest ∧ Stmt.AllTargetsAreChained members)
    id ⟨.none, trivial⟩ ?_ holds
  rintro tokens middle rest head tail ⟨derives, headTargets⟩ ⟨derivesMore, tailTargets⟩
  exact ⟨.more derives derivesMore, headTargets, tailTargets⟩

theorem recovers_structDecl
    (holds : (committed .structDecl).Holds Recovers tokens rest) :
    Recovers .structDecl tokens rest := by
  obtain ⟨_, ⟨word, isWord, rfl⟩, _, ⟨name, isName, rfl⟩, _, ⟨opening, isOpening, rfl⟩, _,
    holds, ⟨closing, isClosing, rfl⟩⟩ := holds
  obtain ⟨members, derives, targets⟩ := recovers_members holds
  exact ⟨_, .struct isWord isName isOpening derives isClosing, targets⟩

theorem recovers_functionDecl
    (holds : (committed .functionDecl).Holds Recovers tokens rest) :
    Recovers .functionDecl tokens rest := by
  obtain ⟨_, ⟨word, isWord, rfl⟩, _, ⟨name, isName, rfl⟩, _, isList, _,
    ⟨result, derivesResult⟩, ⟨body, derivesBody, targets⟩⟩ := holds
  obtain ⟨parameters, derivesParameters⟩ := recovers_parameterList isList
  exact ⟨_, .function isWord isName derivesParameters derivesResult derivesBody, targets⟩

theorem recovers_mainDecl
    (holds : (committed .mainDecl).Holds Recovers tokens rest) :
    Recovers .mainDecl tokens rest := by
  obtain ⟨_, ⟨word, isWord, rfl⟩, ⟨body, derivesBody, targets⟩⟩ := holds
  exact ⟨word, _, body, rfl, isWord, derivesBody, targets⟩

theorem recovers_declarations
    (holds : (Pattern.repeated (.either (.rule .structDecl) (.rule .functionDecl))).Holds
      Recovers tokens rest) :
    ∃ structs functions, DerivesDeclarations tokens structs functions rest ∧
      (∀ declaration ∈ structs, Stmt.AllTargetsAreChained declaration.members) ∧
      ∀ declaration ∈ functions, declaration.body.TargetsAreChained := by
  induction holds using Relation.ReflTransGen.head_induction_on with
  | refl => exact ⟨[], [], .none, List.forall_mem_nil _, List.forall_mem_nil _⟩
  | head isHead _ inductionHypothesis =>
      obtain ⟨structs, functions, derivesMore, structTargets, functionTargets⟩ :=
        inductionHypothesis
      rcases isHead with ⟨declaration, derives, targets⟩ | ⟨declaration, derives, targets⟩
      · exact ⟨declaration :: structs, functions, .struct derives derivesMore,
          List.forall_mem_cons.mpr ⟨targets, structTargets⟩, functionTargets⟩
      · exact ⟨structs, declaration :: functions, .function derives derivesMore, structTargets,
          List.forall_mem_cons.mpr ⟨targets, functionTargets⟩⟩

/-- There are trees for all that a rule derives if there are trees for all that its parts do. -/
theorem recovers_closed
    (name : Rule) (tokens rest : List Token)
    (haveValues : ∀ token ∈ tokens, token.HasValue)
    (holds : (committed name).Holds Recovers tokens rest) : Recovers name tokens rest := by
  cases name with
  | program => trivial
  | structDecl => exact recovers_structDecl holds
  | member => exact recovers_member holds
  | functionDecl => exact recovers_functionDecl holds
  | mainDecl => exact recovers_mainDecl holds
  | parameters => exact recovers_parameters holds
  | type => exact recovers_type holds
  | block => exact recovers_block holds
  | declaration => exact recovers_variables holds
  | statement => exact recovers_statement holds
  | level precedence => exact recovers_level holds
  | unary => exact recovers_unary holds
  | chained => exact recovers_chained holds
  | callable => exact recovers_callable holds
  | primary => exact recovers_primary haveValues holds

/-- What the committed grammar derives as a program is the text of one, with the token that ends
it. -/
theorem exists_derivesProgram
    {finish : Token} (haveValues : ∀ token ∈ tokens, token.HasValue)
    (isMatch : Matches committed (.rule .program) (tokens ++ [finish]) []) :
    ∃ program, DerivesProgram tokens program ∧ program.TargetsAreChained := by
  cases isMatch with
  | rule isMatch => cases isMatch with
    | pair areDeclarations isMatch => cases isMatch with
      | pair isMain isFinish => cases isFinish with
        | token =>
            obtain ⟨-, isWhole⟩ := Matches.of_append (.pair areDeclarations isMain)
            have isWhole := isWhole []
            rw [List.append_nil] at isWhole
            obtain ⟨_, areDeclarations, isMain⟩ := isWhole.holds recovers_closed haveValues
            obtain ⟨structs, functions, derives, structTargets, functionTargets⟩ :=
              recovers_declarations areDeclarations
            obtain ⟨word, _, body, rfl, isWord, derivesBody, targets⟩ := isMain
            refine ⟨_, .program derives isWord derivesBody, structTargets, functionTargets, ?_⟩
            exact fun _ isMain => Option.some.inj isMain ▸ targets

end Grammar

end StructLang
