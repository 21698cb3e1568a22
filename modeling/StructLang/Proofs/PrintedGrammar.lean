import StructLang.Proofs.Grammar.Recovered

/-!
# The reader and the printed grammar

The reader of programs was written apart from the grammar that describes the language. It takes
`append` and `size` before a parenthesis for the operations on lists and never comes back to read
a call of a member, so it accepts the language of the committed grammar, which is a part of the
printed one. On the left of an assignment it would also take expressions that the grammar does not
allow; this is about the programs in which all of them are postfix expressions.

- `ofTokens_iff_committed` : such a program is read from some tokens exactly if the committed
  grammar derives them.
-/

namespace StructLang.Grammar

variable {tokens middle rest : List Token}

/-! ## The committed grammar is a part of the printed one -/

theorem matches_printed_suffix
    (isChained : Matches printed (.rule .chained) tokens middle)
    (isSuffix : Matches printed (.choice .indexed
      [.appended, .sized, .pair (.kind .dot) (.kind .identifier), .called]) middle rest) :
    Matches printed (.rule .chained) tokens rest := by
  cases isChained with
  | rule isChained => cases isChained with
    | pair isPrimary areSuffixes =>
        exact .rule (.pair isPrimary (areSuffixes.repeated_snoc isSuffix))

theorem matches_printed_member
    {dot name : Token} (isOwner : Matches printed (.rule .chained) tokens (dot :: name :: rest))
    (isDot : dot.kind = .dot) (isName : name.kind = .identifier) :
    Matches printed (.rule .chained) tokens rest :=
  matches_printed_suffix isOwner
    (.other (.other (.other (.one (.pair (.token isDot) (.token isName))))))

theorem matches_printed_of_callable
    (isCallable : Matches printed (.rule .callable) tokens rest) :
    Matches printed (.rule .chained) tokens rest := by
  cases isCallable with
  | rule isChained => exact isChained

theorem printed_closed
    (name : Rule) (tokens rest : List Token)
    (holds : (committed name).Holds (fun name => Matches printed (.rule name)) tokens rest) :
    Matches printed (.rule name) tokens rest := by
  cases name with
  | chained =>
      rcases holds with isCallable |
        ⟨_, isOwner, _, ⟨dot, isDot, rfl⟩, ⟨name, ⟨isName, _⟩, rfl⟩⟩ |
        ⟨_, isOwner, _, ⟨dot, isDot, rfl⟩, ⟨name, ⟨isName, _⟩, rfl⟩⟩
      · exact matches_printed_of_callable isCallable
      · exact matches_printed_member isOwner isDot isName
      · exact matches_printed_member isOwner isDot isName
  | callable =>
      refine .rule ?_
      rcases holds with isPrimary | ⟨_, isCallee, isCalled⟩ | ⟨_, isList, isIndexed⟩ |
        ⟨_, isList, isAppended⟩ | ⟨_, isList, isSized⟩ |
        ⟨_, isOwner, _, ⟨dot, isDot, rfl⟩, ⟨name, ⟨isName, _⟩, rfl⟩⟩
      · exact .rule (.pair isPrimary .none)
      · exact matches_printed_suffix (matches_printed_of_callable isCallee)
          (.other (.other (.other (.other isCalled.toMatches))))
      · exact matches_printed_suffix isList (.one isIndexed.toMatches)
      · exact matches_printed_suffix isList (.other (.one isAppended.toMatches))
      · exact matches_printed_suffix isList (.other (.other (.one isSized.toMatches)))
      · exact matches_printed_member isOwner isDot isName
  | _ => exact .rule holds.toMatches

/-- All that the committed grammar derives, the printed grammar derives too. -/
theorem Matches.printed
    {name : Rule} (isMatch : Matches committed (.rule name) tokens rest) :
    Matches printed (.rule name) tokens rest :=
  isMatch.holds (fun name tokens rest _ => printed_closed name tokens rest)
    (fun _ _ => trivial)

/-! ## The reader accepts the committed grammar -/

/-- Tokens that end with the mark of the end, and whose integers have values, are read as a
program that assigns to postfix expressions alone exactly if the committed grammar derives them.
Then the printed grammar derives them too. -/
theorem ofTokens_iff_committed
    (tokens : List Token) (finish : Token)
    (isFinish : finish.kind = .finish)
    (noFinish : ∀ token ∈ tokens, token.kind ≠ .finish)
    (integersHaveValues : ∀ token ∈ tokens, token.kind = .integer →
      ∃ value, Text.readNumeral token.text = .ok value) :
    ((∃ program, Program.ofTokens (tokens ++ [finish]) = .ok program ∧
        program.TargetsAreChained) ↔
      Matches committed (.rule .program) (tokens ++ [finish]) []) ∧
      (Matches committed (.rule .program) (tokens ++ [finish]) [] →
        Matches printed (.rule .program) (tokens ++ [finish]) []) := by
  refine ⟨⟨?_, fun isMatch => ?_⟩, Matches.printed⟩
  · rintro ⟨program, isRead, targets⟩
    rw [ofTokens_append_finish noFinish isFinish] at isRead
    have sound := sound_read finish tokens
    rw [isRead] at sound
    exact matches_of_derivesProgram sound targets isFinish
  · obtain ⟨program, derives, targets⟩ := exists_derivesProgram integersHaveValues isMatch
    refine ⟨program, ?_, targets⟩
    rw [ofTokens_append_finish noFinish isFinish]
    exact read_of_derivesProgram finish derives

/-- The tokens of a main body that assigns the size of a list to a member called `size`. -/
def assignedSize : List Token :=
  [⟨.mainWord, "main", ⟨1, 1⟩⟩, ⟨.leftBrace, "\x7b", ⟨1, 5⟩⟩, ⟨.identifier, "x", ⟨1, 6⟩⟩,
    ⟨.dot, ".", ⟨1, 7⟩⟩, ⟨.identifier, "size", ⟨1, 8⟩⟩, ⟨.assign, "=", ⟨1, 12⟩⟩,
    ⟨.identifier, "y", ⟨1, 13⟩⟩, ⟨.dot, ".", ⟨1, 14⟩⟩, ⟨.identifier, "size", ⟨1, 15⟩⟩,
    ⟨.leftParen, "(", ⟨1, 19⟩⟩, ⟨.rightParen, ")", ⟨1, 20⟩⟩, ⟨.semicolon, ";", ⟨1, 21⟩⟩,
    ⟨.rightBrace, "\x7d", ⟨1, 22⟩⟩]

theorem matches_assignedSize :
    Matches committed (.rule .program) (assignedSize ++ [⟨.finish, "", ⟨1, 23⟩⟩]) [] := by
  have target : DerivesExpr .chained (assignedSize.drop 2)
      (.member (.name "x" ⟨1, 6⟩) "size" ⟨1, 6⟩) (assignedSize.drop 5) :=
    .member (.primary (.name rfl)) rfl rfl
  have value : DerivesExpr .chained (assignedSize.drop 6)
      (.size (.name "y" ⟨1, 13⟩) ⟨1, 13⟩) (assignedSize.drop 11) :=
    .size (.primary (.name rfl)) rfl rfl rfl rfl rfl
  have assigns : DerivesStmt (assignedSize.drop 2) _ (assignedSize.drop 12) :=
    .assign target.ofChained rfl value.ofChained rfl
  have body : DerivesBlock (assignedSize.drop 1) _ [] :=
    .block rfl (.more assigns .none) rfl
  refine matches_of_derivesProgram (.program .none rfl body) ⟨?_, ?_, ?_⟩ rfl
  · exact List.forall_mem_nil _
  · exact List.forall_mem_nil _
  · rintro _ ⟨⟩
    exact ⟨trivial, trivial⟩

theorem ofTokens_assignedSize :
    ∃ program, Program.ofTokens (assignedSize ++ [⟨.finish, "", ⟨1, 23⟩⟩]) = .ok program ∧
      program.TargetsAreChained := by
  have noInteger : ∀ token ∈ assignedSize, token.kind ≠ .integer := by decide
  exact (ofTokens_iff_committed assignedSize _ rfl (by decide)
    fun token isIn isInteger => absurd isInteger (noInteger token isIn)).1.mpr
    matches_assignedSize

/-! ## Where the printed grammar derives more -/

section

variable {name dot member opening closing : Token} {others : List Token}

/-- An expression that starts with `name.append()` cannot go on after the name of the operation:
the operation lacks its element, and the member is not called. -/
theorem DerivesExpr.rest_of_append_nothing
    (isName : name.kind = .identifier) (isDot : dot.kind = .dot)
    (isAppend : member.text = "append") (isOpening : opening.kind = .leftParen)
    (isClosing : closing.kind = .rightParen)
    {form : ExprForm} {tokens rest : List Token} {expression : Expr} :
    DerivesExpr form tokens expression rest →
      tokens = name :: dot :: member :: opening :: closing :: others →
      rest = dot :: member :: opening :: closing :: others ∨
        (rest = opening :: closing :: others ∧ NamesListOperation expression)
  | .operand derives, shape | .unsigned derives, shape | .primary derives, shape =>
      derives.rest_of_append_nothing isName isDot isAppend isOpening isClosing shape
  | @DerivesExpr.operation precedence _ _ _ _ _ _ _ derives isOperator _, shape => by
      have before :=
        derives.rest_of_append_nothing isName isDot isAppend isOpening isClosing shape
      rcases before with before | ⟨before, -⟩ <;> obtain ⟨rfl, -⟩ := List.cons.inj before
      · cases precedence <;> simp [isDot, Precedence.operator?] at isOperator
      · cases precedence <;> simp [isOpening, Precedence.operator?] at isOperator
  | .call derives noOperation kind _ _, shape => by
      have before :=
        derives.rest_of_append_nothing isName isDot isAppend isOpening isClosing shape
      rcases before with before | ⟨-, isOperation⟩
      · simp_all
      · exact absurd isOperation noOperation
  | .index derives kind _ _, shape => by
      have before :=
        derives.rest_of_append_nothing isName isDot isAppend isOpening isClosing shape
      rcases before with before | ⟨before, -⟩ <;> simp_all
  | .append derives kind _ _ _ derivesElement _, shape => by
      have before :=
        derives.rest_of_append_nothing isName isDot isAppend isOpening isClosing shape
      obtain ⟨first, _, rfl, starts⟩ := derivesElement.starts
      rcases before with before | ⟨before, -⟩
      · simp only [List.cons.injEq] at before
        obtain ⟨-, -, -, rfl, -⟩ := before
        rw [isClosing] at starts
        cases starts
      · simp_all
  | .size derives kind _ isSize _ _, shape => by
      have before :=
        derives.rest_of_append_nothing isName isDot isAppend isOpening isClosing shape
      rcases before with before | ⟨before, -⟩ <;> simp_all
  | .member derives kind _, shape => by
      have before :=
        derives.rest_of_append_nothing isName isDot isAppend isOpening isClosing shape
      rcases before with before | ⟨before, -⟩
      · simp only [List.cons.injEq] at before
        obtain ⟨-, rfl, rfl⟩ := before
        exact .inr ⟨rfl, isAppend ▸ .append _ _⟩
      · simp_all
  | .name _, shape => .inl (List.cons.inj shape).2
  | .invert kind _, shape | .negate kind _, shape | .integer kind _, shape | .true kind, shape
  | .false kind, shape | .group kind _ _, shape => by
      obtain ⟨rfl, -⟩ := List.cons.inj shape
      rw [isName] at kind
      cases kind

/-- No statement starts with a call of the operation that appends, but with nothing to append. -/
theorem not_derivesStmt_append_nothing
    {statement : Stmt} (isName : name.kind = .identifier) (isDot : dot.kind = .dot)
    (isAppend : member.text = "append") (isOpening : opening.kind = .leftParen)
    (isClosing : closing.kind = .rightParen) :
    ¬ DerivesStmt (name :: dot :: member :: opening :: closing :: others) statement rest := by
  have goesOn {expression : Expr} {last : Token} {after : List Token}
      (derives : DerivesExpr .whole (name :: dot :: member :: opening :: closing :: others)
        expression (last :: after)) : last.kind = .dot ∨ last.kind = .leftParen := by
    rcases derives.rest_of_append_nothing isName isDot isAppend isOpening isClosing rfl with
      before | ⟨before, -⟩
    · exact .inl ((List.cons.inj before).1 ▸ isDot)
    · exact .inr ((List.cons.inj before).1 ▸ isOpening)
  intro derives
  cases derives with
  | block derives => cases derives with
    | block kind => simp_all
  | declare derives => cases derives with
    | ofNames derivesType derivesNames => cases derivesType with
      | struct =>
          cases derivesNames with
          | last isName | more isName =>
              obtain ⟨shape, kind⟩ := isName
              simp_all
      | int kind | bool kind | void kind | list kind | fptr kind => simp_all
  | assign derives kind | call derives kind | append derives kind | size derives kind =>
      rcases goesOn derives with before | before <;> simp_all
  | branch kind | branchElse kind | loop kind | display kind | giveBackNothing kind
  | giveBack kind => simp_all

end

/-- The tokens of a main body that calls a member `append` with no argument. -/
def calledAppend : List Token :=
  [⟨.mainWord, "main", ⟨1, 1⟩⟩, ⟨.leftBrace, "\x7b", ⟨1, 5⟩⟩, ⟨.identifier, "x", ⟨1, 6⟩⟩,
    ⟨.dot, ".", ⟨1, 7⟩⟩, ⟨.identifier, "append", ⟨1, 8⟩⟩, ⟨.leftParen, "(", ⟨1, 14⟩⟩,
    ⟨.rightParen, ")", ⟨1, 15⟩⟩, ⟨.semicolon, ";", ⟨1, 16⟩⟩, ⟨.rightBrace, "\x7d", ⟨1, 17⟩⟩]

theorem matches_printed_calledAppend :
    Matches printed (.rule .program) (calledAppend ++ [⟨.finish, "", ⟨1, 18⟩⟩]) [] := by
  have name : Matches printed (.rule .primary) (calledAppend.drop 2) (calledAppend.drop 3) :=
    .rule (.other (.other (.other (.one (.token rfl)))))
  have member : Matches printed (.rule .chained) (calledAppend.drop 2) (calledAppend.drop 5) :=
    matches_printed_member (.rule (.pair name .none)) rfl rfl
  have called : Matches printed .called (calledAppend.drop 5) (calledAppend.drop 7) :=
    .pair (.token rfl) (.pair (.one .empty) (.token rfl))
  have statement :
      Matches printed (.rule .statement) (calledAppend.drop 2) (calledAppend.drop 8) :=
    .rule (.other (.other (.other (.other (.other (.other (.other
      (.pair (.one (.pair (.rule member) called)) (.token rfl)))))))))
  obtain ⟨piece, shape, isMatch⟩ := statement.exists_piece
  obtain rfl : piece = (calledAppend.drop 2).take 6 := List.append_cancel_right shape.symm
  exact .rule (.pair .none (.pair (.rule (.pair (.token rfl) (.rule (.pair (.token rfl)
    (.pair (.more (isMatch _) .none) (.token rfl)))))) (.token rfl)))

theorem not_derivesProgram_calledAppend
    (program : Program) : ¬ DerivesProgram calledAppend program := by
  intro derives
  cases derives with
  | program derives isMain derivesBody => cases derives with
    | none => cases derivesBody with
      | block _ derivesStmts isClosing => cases derivesStmts with
        | more derives _ => exact not_derivesStmt_append_nothing rfl rfl rfl rfl rfl derives
    | struct derives => cases derives with
      | struct kind => cases kind
    | function derives => cases derives with
      | function kind => cases kind

/-- The tokens of a main body that assigns to a sum. -/
def assignedSum : List Token :=
  [⟨.mainWord, "main", ⟨1, 1⟩⟩, ⟨.leftBrace, "\x7b", ⟨1, 5⟩⟩, ⟨.identifier, "a", ⟨1, 6⟩⟩,
    ⟨.plus, "+", ⟨1, 7⟩⟩, ⟨.identifier, "b", ⟨1, 8⟩⟩, ⟨.assign, "=", ⟨1, 9⟩⟩,
    ⟨.identifier, "c", ⟨1, 10⟩⟩, ⟨.semicolon, ";", ⟨1, 11⟩⟩, ⟨.rightBrace, "\x7d", ⟨1, 12⟩⟩]

theorem ofTokens_assignedSum :
    ∃ program, Program.ofTokens (assignedSum ++ [⟨.finish, "", ⟨1, 13⟩⟩]) = .ok program ∧
      ¬ program.TargetsAreChained := by
  have sum : DerivesExpr .whole (assignedSum.drop 2) _ (assignedSum.drop 5) :=
    .operand (.operand (.operand (.operand (.operation
      (.operand (.operand (.unsigned (.primary (.name rfl))))) rfl
      (.operand (.unsigned (.primary (.name rfl))))))))
  have value : DerivesExpr .chained (assignedSum.drop 6) _ (assignedSum.drop 7) :=
    .primary (.name rfl)
  have body : DerivesBlock (assignedSum.drop 1) _ [] :=
    .block rfl (.more (.assign sum rfl value.ofChained rfl) .none) rfl
  have derives : DerivesProgram assignedSum _ := .program .none rfl body
  refine ⟨_, (ofTokens_append_finish (by decide) rfl).trans
    (read_of_derivesProgram _ derives), fun targets => ?_⟩
  obtain ⟨isTarget, -⟩ := targets.main _ rfl
  exact isTarget

/-- A call of a member `append` with no argument is derived by the printed grammar but refused,
and an assignment to a sum is accepted. -/
theorem printed_ne_accepted :
    Matches printed (.rule .program) (calledAppend ++ [⟨.finish, "", ⟨1, 18⟩⟩]) [] ∧
      (¬ ∃ program, Program.ofTokens (calledAppend ++ [⟨.finish, "", ⟨1, 18⟩⟩]) = .ok program) ∧
      ∃ program, Program.ofTokens (assignedSum ++ [⟨.finish, "", ⟨1, 13⟩⟩]) = .ok program ∧
        ¬ program.TargetsAreChained := by
  refine ⟨matches_printed_calledAppend, ?_, ofTokens_assignedSum⟩
  rintro ⟨program, isRead⟩
  rw [ofTokens_append_finish (by decide) rfl] at isRead
  have sound := sound_read ⟨.finish, "", ⟨1, 18⟩⟩ calledAppend
  rw [isRead] at sound
  exact not_derivesProgram_calledAppend program sound

end StructLang.Grammar
