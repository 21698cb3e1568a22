import StructLang.Proofs.Grammar.Programs
import StructLang.Proofs.Token.Braces

/-!
# The braces of derivations

Only blocks and the bodies of structs and accessors have braces, and each closes the one it opens.
So types, parameters and expressions are free of braces, and the braces of statements, members and
declarations are balanced.
-/

namespace StructLang.Grammar

open Text

variable {tokens middle rest : List Token}

/-- Something holds of the braces of the tokens up to a rest. -/
def Passes (holds : List Char → Prop) (tokens rest : List Token) : Prop :=
  ∃ piece, tokens = piece ++ rest ∧ holds (Token.braces piece)

/-- No brace stands among the tokens up to a rest. -/
abbrev PassesNone : List Token → List Token → Prop := Passes (· = [])

/-- The braces of the tokens up to a rest are balanced. -/
abbrev PassesBalanced : List Token → List Token → Prop := Passes Balanced

theorem PassesNone.refl : PassesNone rest rest := ⟨[], rfl, rfl⟩

theorem PassesNone.trans
    (first : PassesNone tokens middle) (second : PassesNone middle rest) :
    PassesNone tokens rest := by
  obtain ⟨piece, rfl, noBraces⟩ := first
  obtain ⟨next, rfl, noneToo⟩ := second
  exact ⟨piece ++ next, (List.append_assoc _ _ _).symm, by
    rw [Token.braces_append, noBraces, noneToo, List.append_nil]⟩

/-- A token that is no brace. -/
theorem PassesNone.token
    {first : Token} {kind : TokenKind} (isKind : first.kind = kind)
    (noBrace : kind.brace? = none) : PassesNone (first :: rest) rest :=
  ⟨[first], rfl, by rw [Token.braces_cons, isKind, noBrace]; rfl⟩

theorem PassesNone.cons
    {first : Token} {kind : TokenKind} (isKind : first.kind = kind)
    (noBrace : kind.brace? = none) (passes : PassesNone tokens rest) :
    PassesNone (first :: tokens) rest :=
  (PassesNone.token isKind noBrace).trans passes

theorem PassesNone.balanced
    (passes : PassesNone tokens rest) : PassesBalanced tokens rest := by
  obtain ⟨piece, shape, noBraces⟩ := passes
  exact ⟨piece, shape, noBraces ▸ .nil⟩

theorem PassesBalanced.trans
    (first : PassesBalanced tokens middle) (second : PassesBalanced middle rest) :
    PassesBalanced tokens rest := by
  obtain ⟨piece, rfl, isFirst⟩ := first
  obtain ⟨next, rfl, isSecond⟩ := second
  exact ⟨piece ++ next, (List.append_assoc _ _ _).symm, by
    rw [Token.braces_append]
    exact isFirst.append isSecond⟩

/-- Tokens in braces. -/
theorem PassesBalanced.enclose
    {opening closing : Token} (isOpening : opening.kind = .leftBrace)
    (passes : PassesBalanced tokens (closing :: rest)) (isClosing : closing.kind = .rightBrace) :
    PassesBalanced (opening :: tokens) rest := by
  obtain ⟨piece, rfl, isBalanced⟩ := passes
  refine ⟨opening :: (piece ++ [closing]), by simp, ?_⟩
  rw [Token.braces_cons, Token.braces_append, Token.braces_cons, isOpening, isClosing]
  exact isBalanced.enclose

/-! ## Types, parameters and expressions -/

mutual

theorem DerivesType.passesNone
    {tokens rest : List Token} {type : Ty} :
    DerivesType tokens type rest → PassesNone tokens rest
  | .int kind | .bool kind | .void kind | .struct kind => .token kind rfl
  | .list isList isOpening derives isClosing =>
      .cons isList rfl (.cons isOpening rfl (derives.passesNone.trans (.token isClosing rfl)))
  | .fptr isFptr isOpening derivesParameters isArrow derivesResult isClosing =>
      .cons isFptr rfl (.cons isOpening rfl (derivesParameters.passesNone.trans
        (.cons isArrow rfl (derivesResult.passesNone.trans (.token isClosing rfl)))))

theorem DerivesParameterTypes.passesNone
    {tokens rest : List Token} {types : List Ty} :
    DerivesParameterTypes tokens types rest → PassesNone tokens rest
  | .none isVoid => .token isVoid rfl
  | .some derives _ => derives.passesNone

theorem DerivesTypes.passesNone
    {tokens rest : List Token} {types : List Ty} :
    DerivesTypes tokens types rest → PassesNone tokens rest
  | .last derives => derives.passesNone
  | .more derives isComma derivesMore =>
      derives.passesNone.trans (.cons isComma rfl derivesMore.passesNone)

end

theorem brace?_of_operator
    {precedence : Precedence} {kind : TokenKind} {operator : BinaryOp}
    (isOperator : precedence.operator? kind = some operator) : kind.brace? = none := by
  unfold Precedence.operator? at isOperator
  split at isOperator <;> first | rfl | cases isOperator

mutual

theorem DerivesExpr.passesNone
    {form : ExprForm} {tokens rest : List Token} {expression : Expr} :
    DerivesExpr form tokens expression rest → PassesNone tokens rest
  | .operand derives | .unsigned derives | .primary derives => derives.passesNone
  | .operation derivesLeft isOperator derivesRight =>
      derivesLeft.passesNone.trans
        (.cons rfl (brace?_of_operator isOperator) derivesRight.passesNone)
  | .invert isSign derives | .negate isSign derives => .cons isSign rfl derives.passesNone
  | .call derives _ isOpening derivesArguments isClosing =>
      derives.passesNone.trans (.cons isOpening rfl
        (derivesArguments.passesNone.trans (.token isClosing rfl)))
  | .index derives isOpening derivesPlace isClosing =>
      derives.passesNone.trans (.cons isOpening rfl
        (derivesPlace.passesNone.trans (.token isClosing rfl)))
  | .append derives isDot isName _ isOpening derivesElement isClosing =>
      derives.passesNone.trans (.cons isDot rfl (.cons isName rfl (.cons isOpening rfl
        (derivesElement.passesNone.trans (.token isClosing rfl)))))
  | .size derives isDot isName _ isOpening isClosing =>
      derives.passesNone.trans (.cons isDot rfl (.cons isName rfl (.cons isOpening rfl
        (.token isClosing rfl))))
  | .member derives isDot isName =>
      derives.passesNone.trans (.cons isDot rfl (.token isName rfl))
  | .integer isWord _ | .true isWord | .false isWord | .name isWord => .token isWord rfl
  | .group isOpening derives isClosing =>
      .cons isOpening rfl (derives.passesNone.trans (.token isClosing rfl))

theorem DerivesArguments.passesNone
    {tokens rest : List Token} {arguments : List Expr} :
    DerivesArguments tokens arguments rest → PassesNone tokens rest
  | .none => .refl
  | .some derives => derives.passesNone

theorem DerivesItems.passesNone
    {tokens rest : List Token} {items : List Expr} :
    DerivesItems tokens items rest → PassesNone tokens rest
  | .last derives => derives.passesNone
  | .more derives isComma derivesMore =>
      derives.passesNone.trans (.cons isComma rfl derivesMore.passesNone)

end

theorem DerivesSeries.passesNone
    {alpha : Type} {item : List Token → alpha → List Token → Prop} {items : List alpha}
    (derives : DerivesSeries item tokens items rest)
    (each : ∀ tokens found rest, item tokens found rest → PassesNone tokens rest) :
    PassesNone tokens rest := by
  induction derives with
  | last derives => exact each _ _ _ derives
  | more derives isComma _ inductionHypothesis =>
      exact (each _ _ _ derives).trans (.cons isComma rfl inductionHypothesis)

theorem DerivesParameter.passesNone
    {parameter : VariableDecl} (derives : DerivesParameter tokens parameter rest) :
    PassesNone tokens rest := by
  cases derives with
  | parameter derives isName => exact derives.passesNone.trans (.token isName rfl)

theorem DerivesParameters.passesNone
    {parameters : List VariableDecl} (derives : DerivesParameters tokens parameters rest) :
    PassesNone tokens rest := by
  cases derives with
  | none isOpening isClosing => exact .cons isOpening rfl (.token isClosing rfl)
  | some isOpening derives isClosing =>
      have inside := derives.passesNone fun _ _ _ => DerivesParameter.passesNone
      exact .cons isOpening rfl (inside.trans (.token isClosing rfl))

theorem DerivesName.passesNone
    {name : Token} (derives : DerivesName tokens name rest) : PassesNone tokens rest := by
  obtain ⟨rfl, isName⟩ := derives
  exact .token isName rfl

theorem DerivesVariables.passesNone
    {declared : List VariableDecl} (derives : DerivesVariables tokens declared rest) :
    PassesNone tokens rest := by
  cases derives with
  | ofNames derives derivesNames isSemicolon =>
      have names := derivesNames.passesNone fun _ _ _ => DerivesName.passesNone
      exact derives.passesNone.trans (names.trans (.token isSemicolon rfl))

theorem DerivesCondition.passesNone
    {condition : Expr} (derives : DerivesCondition tokens condition rest) :
    PassesNone tokens rest := by
  cases derives with
  | condition isOpening derives isClosing =>
      exact .cons isOpening rfl (derives.passesNone.trans (.token isClosing rfl))

/-! ## Statements -/

mutual

theorem DerivesStmt.passesBalanced
    {tokens rest : List Token} {statement : Stmt} :
    DerivesStmt tokens statement rest → PassesBalanced tokens rest
  | .block derives => derives.passesBalanced
  | .declare derives => derives.passesNone.balanced
  | .assign derivesTarget isMark derivesValue isSemicolon =>
      (derivesTarget.passesNone.trans (.cons isMark rfl
        (derivesValue.passesNone.trans (.token isSemicolon rfl)))).balanced
  | .call derives isSemicolon | .append derives isSemicolon | .size derives isSemicolon =>
      (derives.passesNone.trans (.token isSemicolon rfl)).balanced
  | .branch isIf derivesCondition derivesThen =>
      (PassesNone.cons isIf rfl derivesCondition.passesNone).balanced.trans
        derivesThen.passesBalanced
  | .branchElse isIf derivesCondition derivesThen _ isElse derivesElse =>
      (PassesNone.cons isIf rfl derivesCondition.passesNone).balanced.trans
        (derivesThen.passesBalanced.trans
          ((PassesNone.token isElse rfl).balanced.trans derivesElse.passesBalanced))
  | .loop isWhile derivesCondition derivesBody =>
      (PassesNone.cons isWhile rfl derivesCondition.passesNone).balanced.trans
        derivesBody.passesBalanced
  | .display isDisplay derives isSemicolon =>
      (PassesNone.cons isDisplay rfl
        (derives.passesNone.trans (.token isSemicolon rfl))).balanced
  | .giveBackNothing isReturn isSemicolon =>
      (PassesNone.cons isReturn rfl (.token isSemicolon rfl)).balanced
  | .giveBack isReturn derives isSemicolon =>
      (PassesNone.cons isReturn rfl
        (derives.passesNone.trans (.token isSemicolon rfl))).balanced

theorem DerivesBlock.passesBalanced
    {tokens rest : List Token} {statement : Stmt} :
    DerivesBlock tokens statement rest → PassesBalanced tokens rest
  | .block isOpening derives isClosing => .enclose isOpening derives.passesBalanced isClosing

theorem DerivesStmts.passesBalanced
    {tokens rest : List Token} {statements : List Stmt} :
    DerivesStmts tokens statements rest → PassesBalanced tokens rest
  | .none => PassesNone.refl.balanced
  | .more derives derivesMore => derives.passesBalanced.trans derivesMore.passesBalanced

end

theorem DerivesAccessorBlocks.passesBalanced
    {setBody getBody : Stmt} (derives : DerivesAccessorBlocks tokens setBody getBody rest) :
    PassesBalanced tokens rest := by
  cases derives with
  | setFirst isFirst derivesFirst isSecond derivesSecond
  | getFirst isFirst derivesFirst isSecond derivesSecond =>
      exact (PassesNone.token isFirst rfl).balanced.trans (derivesFirst.passesBalanced.trans
        ((PassesNone.token isSecond rfl).balanced.trans derivesSecond.passesBalanced))

/-! ## Characters -/

/-- Tokens without braces stand in characters without braces. -/
theorem PassesNone.pass
    {before text : List Char} (passes : PassesNone tokens rest)
    (clear : Scan.ClearSplits before text tokens) :
    ∃ passed left, text = passed ++ left ∧ BraceFree passed ∧
      Scan.ClearSplits (before ++ passed) left rest := by
  obtain ⟨piece, rfl, noBraces⟩ := passes
  obtain ⟨passed, left, rfl, sameBraces, -, clear⟩ := clear.pass
  exact ⟨passed, left, rfl, .of_braces (sameBraces.trans noBraces), clear⟩

/-- Tokens with balanced braces stand in characters with balanced braces. -/
theorem PassesBalanced.pass
    {before text : List Char} (passes : PassesBalanced tokens rest)
    (clear : Scan.ClearSplits before text tokens) :
    ∃ passed left, text = passed ++ left ∧ Balanced passed ∧
      Scan.ClearSplits (before ++ passed) left rest := by
  obtain ⟨piece, rfl, isBalanced⟩ := passes
  obtain ⟨passed, left, rfl, sameBraces, -, clear⟩ := clear.pass
  exact ⟨passed, left, rfl, .of_braces (sameBraces ▸ isBalanced), clear⟩

end StructLang.Grammar
