import StructLang.Program.OfSource
import StructLang.Proofs.Grammar.Suffixes
import StructLang.Proofs.Token.Splits
import StructLang.Proofs.Written

/-!
# Programs from source texts are as written

What a derivation makes of tokens has the shape of a written program. The names it declares are
texts of identifier tokens, and the scan makes those of characters that words may hold.
-/

namespace StructLang

open Grammar Reader

/-! ## Derived trees are of the written shape -/

namespace Grammar

/-- All identifiers among some tokens are plain names. -/
def PlainNames (tokens : List Token) : Prop :=
  ∀ token ∈ tokens, token.kind = .identifier → PlainName token.text

theorem PlainNames.of_suffix
    {tokens rest : List Token} (plain : PlainNames tokens) (suffix : rest <:+ tokens) :
    PlainNames rest :=
  fun token member => plain token (suffix.subset member)

theorem PlainNames.tail
    {first : Token} {rest : List Token} (plain : PlainNames (first :: rest)) : PlainNames rest :=
  plain.of_suffix (List.suffix_cons _ _)

theorem PlainNames.head
    {first : Token} {rest : List Token} (plain : PlainNames (first :: rest))
    (isName : first.kind = .identifier) : PlainName first.text :=
  plain first List.mem_cons_self isName

mutual

theorem DerivesType.written
    {tokens rest : List Token} {type : Ty} :
    DerivesType tokens type rest → PlainNames tokens → type.Written
  | .int _, _ | .bool _, _ | .void _, _ => trivial
  | .struct isName, plain => plain.head isName
  | .list _ _ derives _, plain => derives.written plain.tail.tail
  | .fptr _ _ derivesParameters _ derivesResult _, plain =>
      ⟨derivesParameters.written plain.tail.tail,
        derivesResult.written (plain.tail.tail.of_suffix derivesParameters.suffix).tail⟩

theorem DerivesParameterTypes.written
    {tokens rest : List Token} {types : List Ty} :
    DerivesParameterTypes tokens types rest → PlainNames tokens → Ty.WrittenAll types
  | .none _, _ => trivial
  | .some derives _, plain => derives.written plain

theorem DerivesTypes.written
    {tokens rest : List Token} {types : List Ty} :
    DerivesTypes tokens types rest → PlainNames tokens → Ty.WrittenAll types
  | .last derives, plain => ⟨derives.written plain, trivial⟩
  | .more derives _ derivesMore, plain =>
      ⟨derives.written plain, derivesMore.written (plain.of_suffix derives.suffix).tail⟩

end

/-- No operator of an expression assigns. -/
theorem operator?_ne_assign
    {precedence : Precedence} {kind : TokenKind} {operator : BinaryOp}
    (found : precedence.operator? kind = some operator) : operator ≠ .assign := by
  cases precedence <;> cases kind <;> cases found <;> decide

theorem DerivesItems.ne_nil
    {tokens rest : List Token} {items : List Expr} (derives : DerivesItems tokens items rest) :
    items ≠ [] := by
  cases derives <;> exact List.cons_ne_nil _ _

mutual

theorem DerivesExpr.written
    {form : ExprForm} {tokens rest : List Token} {expression : Expr} :
    DerivesExpr form tokens expression rest → PlainNames tokens → expression.Written
  | .operand derives, plain | .unsigned derives, plain | .primary derives, plain =>
      derives.written plain
  | .operation derivesLeft isOperator derivesRight, plain =>
      ⟨derivesLeft.written plain,
        derivesRight.written (plain.of_suffix derivesLeft.suffix).tail, _, rfl,
        operator?_ne_assign isOperator⟩
  | .invert _ derives, plain | .negate _ derives, plain =>
      ⟨derives.written plain.tail, _, rfl⟩
  | .call derives _ _ derivesArguments _, plain =>
      ⟨derives.written plain, derivesArguments.written (plain.of_suffix derives.suffix).tail⟩
  | .index derives _ derivesPlace _, plain =>
      ⟨derives.written plain, derivesPlace.written (plain.of_suffix derives.suffix).tail⟩
  | .append derives _ _ _ _ derivesElement _, plain =>
      ⟨derives.written plain,
        derivesElement.written (plain.of_suffix derives.suffix).tail.tail.tail⟩
  | .size derives _ _ _ _ _, plain => derives.written plain
  | .member derives _ _, plain => derives.written plain
  | .integer _ _, _ | .true _, _ | .false _, _ => trivial
  | .name isName, plain => plain.head isName
  | .group _ derives _, plain => ⟨derives.ne_nil, derives.written plain.tail⟩

theorem DerivesArguments.written
    {tokens rest : List Token} {arguments : List Expr} :
    DerivesArguments tokens arguments rest → PlainNames tokens → Expr.WrittenAll arguments
  | .none, _ => trivial
  | .some derives, plain => derives.written plain

theorem DerivesItems.written
    {tokens rest : List Token} {items : List Expr} :
    DerivesItems tokens items rest → PlainNames tokens → Expr.WrittenAll items
  | .last derives, plain => ⟨derives.written plain, trivial⟩
  | .more derives _ derivesMore, plain =>
      ⟨derives.written plain, derivesMore.written (plain.of_suffix derives.suffix).tail⟩

end

theorem DerivesVariables.written
    {tokens rest : List Token} {declared : List VariableDecl}
    (derives : DerivesVariables tokens declared rest) (plain : PlainNames tokens) :
    ∀ declaration ∈ declared, declaration.Written := by
  cases derives with
  | ofNames derives =>
      intro declaration member
      obtain ⟨name, -, rfl⟩ := List.mem_map.mp member
      exact derives.written plain

theorem DerivesParameter.written
    {tokens rest : List Token} {parameter : VariableDecl}
    (derives : DerivesParameter tokens parameter rest) (plain : PlainNames tokens) :
    parameter.Written := by
  cases derives with
  | parameter derives => exact derives.written plain

theorem DerivesSeries.forall_mem
    {alpha : Type} {item : List Token → alpha → List Token → Prop} {isSo : alpha → Prop}
    {tokens rest : List Token} {items : List alpha}
    (derives : DerivesSeries item tokens items rest) (plain : PlainNames tokens)
    (suffix : ∀ tokens found rest, item tokens found rest → rest <:+ tokens)
    (each : ∀ tokens found rest, item tokens found rest → PlainNames tokens → isSo found) :
    ∀ found ∈ items, isSo found := by
  induction derives with
  | last derives => simpa using each _ _ _ derives plain
  | more derives _ _ inductionHypothesis =>
      exact List.forall_mem_cons.mpr ⟨each _ _ _ derives plain,
        inductionHypothesis (plain.of_suffix (suffix _ _ _ derives)).tail⟩

theorem DerivesParameters.written
    {tokens rest : List Token} {parameters : List VariableDecl}
    (derives : DerivesParameters tokens parameters rest) (plain : PlainNames tokens) :
    ∀ parameter ∈ parameters, parameter.Written := by
  cases derives with
  | none => exact List.forall_mem_nil _
  | some _ derives =>
      exact derives.forall_mem plain.tail (fun _ _ _ => DerivesParameter.suffix)
        fun _ _ _ => DerivesParameter.written

theorem DerivesCondition.written
    {tokens rest : List Token} {condition : Expr}
    (derives : DerivesCondition tokens condition rest) (plain : PlainNames tokens) :
    condition.Written := by
  cases derives with
  | condition _ derives => exact derives.written plain.tail

mutual

theorem DerivesStmt.written
    {tokens rest : List Token} {statement : Stmt} :
    DerivesStmt tokens statement rest → PlainNames tokens → statement.Written
  | .block derives, plain => derives.written plain
  | .declare derives, plain => derives.written plain
  | .assign derivesTarget _ derivesValue _, plain =>
      ⟨derivesTarget.written plain,
        derivesValue.written (plain.of_suffix derivesTarget.suffix).tail⟩
  | .call derives _, plain | .append derives _, plain | .size derives _, plain =>
      derives.written plain
  | .branch _ derivesCondition derivesThen, plain =>
      ⟨derivesCondition.written plain.tail,
        derivesThen.written (plain.tail.of_suffix derivesCondition.suffix), Or.inl rfl⟩
  | .branchElse _ derivesCondition derivesThen _ _ derivesElse, plain =>
      have plainThen := plain.tail.of_suffix derivesCondition.suffix
      ⟨derivesCondition.written plain.tail, derivesThen.written plainThen,
        Or.inr (derivesElse.written (plainThen.of_suffix derivesThen.suffix).tail)⟩
  | .loop _ derivesCondition derivesBody, plain =>
      ⟨derivesCondition.written plain.tail,
        derivesBody.written (plain.tail.of_suffix derivesCondition.suffix)⟩
  | .display _ derives _, plain => derives.written plain.tail
  | .giveBackNothing _ _, _ => trivial
  | .giveBack _ derives _, plain => derives.written plain.tail

theorem DerivesBlock.written
    {tokens rest : List Token} {statement : Stmt} :
    DerivesBlock tokens statement rest → PlainNames tokens → statement.Written
  | .block _ derives _, plain => derives.written plain.tail

theorem DerivesStmts.written
    {tokens rest : List Token} {statements : List Stmt} :
    DerivesStmts tokens statements rest → PlainNames tokens → Stmt.WrittenAll statements
  | .none, _ => trivial
  | .more derives derivesMore, plain =>
      ⟨derives.written plain, derivesMore.written (plain.of_suffix derives.suffix)⟩

end

theorem DerivesMember.written
    {tokens rest : List Token} {member : Stmt} (derives : DerivesMember tokens member rest)
    (plain : PlainNames tokens) : member.WrittenMember := by
  cases derives with
  | fields derives => exact derives.written plain
  | accessor derivesType isName derivesParameters =>
      have plainRest := plain.of_suffix derivesType.suffix
      exact ⟨plainRest.head isName, derivesType.written plain,
        derivesParameters.written plainRest.tail, rfl, rfl⟩

theorem DerivesMembers.written
    {tokens rest : List Token} {members : List Stmt} (derives : DerivesMembers tokens members rest)
    (plain : PlainNames tokens) : ∀ member ∈ members, member.WrittenMember := by
  induction derives with
  | none => exact List.forall_mem_nil _
  | more derivesHead _ inductionHypothesis =>
      exact List.forall_mem_cons.mpr ⟨derivesHead.written plain,
        inductionHypothesis (plain.of_suffix derivesHead.suffix)⟩

theorem DerivesStruct.written
    {tokens rest : List Token} {declaration : StructDecl}
    (derives : DerivesStruct tokens declaration rest) (plain : PlainNames tokens) :
    declaration.Written := by
  cases derives with
  | struct _ isName _ derives =>
      exact ⟨plain.tail.head isName, derives.written plain.tail.tail.tail⟩

theorem DerivesFunction.written
    {tokens rest : List Token} {declaration : FunctionDecl}
    (derives : DerivesFunction tokens declaration rest) (plain : PlainNames tokens) :
    declaration.Written := by
  cases derives with
  | function _ isName derivesParameters derivesResult derivesBody =>
      have plainParameters := plain.tail.tail
      have plainResult := plainParameters.of_suffix derivesParameters.suffix
      exact ⟨plain.tail.head isName, derivesResult.written plainResult,
        derivesParameters.written plainParameters,
        derivesBody.written (plainResult.of_suffix derivesResult.suffix)⟩

theorem DerivesDeclarations.written
    {tokens rest : List Token} {structs : List StructDecl} {functions : List FunctionDecl}
    (derives : DerivesDeclarations tokens structs functions rest) (plain : PlainNames tokens) :
    (∀ declaration ∈ structs, declaration.Written) ∧
      ∀ declaration ∈ functions, declaration.Written := by
  induction derives with
  | none => exact ⟨List.forall_mem_nil _, List.forall_mem_nil _⟩
  | struct derivesHead _ inductionHypothesis =>
      obtain ⟨structs, functions⟩ :=
        inductionHypothesis (plain.of_suffix derivesHead.suffix)
      exact ⟨List.forall_mem_cons.mpr ⟨derivesHead.written plain, structs⟩, functions⟩
  | function derivesHead _ inductionHypothesis =>
      obtain ⟨structs, functions⟩ :=
        inductionHypothesis (plain.of_suffix derivesHead.suffix)
      exact ⟨structs, List.forall_mem_cons.mpr ⟨derivesHead.written plain, functions⟩⟩

theorem DerivesProgram.written
    {tokens : List Token} {program : Program} (derives : DerivesProgram tokens program)
    (plain : PlainNames tokens) : program.Written := by
  cases derives with
  | program derives _ derivesBody =>
      obtain ⟨structs, functions⟩ := derives.written plain
      exact ⟨structs, functions, _, rfl,
        derivesBody.written (plain.of_suffix derives.suffix).tail⟩

end Grammar

/-! ## Words are plain names -/

namespace Scan

theorem plainName_of_isLexeme
    {kind : TokenKind} {characters rest : List Char} (isLexeme : IsLexeme kind characters rest)
    (isIdentifier : kind = .identifier) : PlainName (String.ofList characters) := by
  obtain ⟨-, continues, -⟩ := isLexeme.of_wordKind (isIdentifier ▸ List.mem_cons_self)
  rw [PlainName, String.toList_ofList]
  exact fun isSign => absurd (continues '@' isSign) (by decide)

theorem plainNames_of_splits
    {before text : List Char} {tokens : List Token} (splits : Splits before text tokens) :
    PlainNames tokens := by
  induction splits with
  | finish => simp [PlainNames]
  | lexeme _ isLexeme _ inductionHypothesis =>
      exact List.forall_mem_cons.mpr ⟨plainName_of_isLexeme isLexeme, inductionHypothesis⟩

end Scan

/-- A program comes from the tokens of its text. -/
theorem Program.ofTokens_of_ofSource
    {source : String} {program : Program} (isRead : ofSource source = .ok program) :
    ∃ tokens, scan source = .ok tokens ∧ ofTokens tokens = .ok program := by
  rw [ofSource] at isRead
  cases scanned : scan source with
  | error fault =>
      rw [scanned] at isRead
      cases isRead
  | ok tokens =>
      rw [scanned] at isRead
      change (ofTokens tokens).mapError _ = _ at isRead
      cases isProgram : ofTokens tokens with
      | error failure =>
          rw [isProgram] at isRead
          cases isRead
      | ok program =>
          rw [isProgram] at isRead
          cases isRead
          exact ⟨tokens, rfl, isProgram⟩

/-- A program that was read from a source text is as it is written. -/
theorem Program.written_of_ofSource
    {source : String} {program : Program} (isRead : Program.ofSource source = .ok program) :
    program.Written := by
  obtain ⟨tokens, scanned, isProgram⟩ := ofTokens_of_ofSource isRead
  have plain : PlainNames tokens := Scan.plainNames_of_splits (Scan.splits_of_scan scanned)
  rw [Program.ofTokens] at isProgram
  split at isProgram
  case h_1 => cases isProgram
  case h_2 finish _ _ =>
    have sound := sound_read finish (tokens.takeWhile (·.kind != .finish))
    rw [isProgram] at sound
    exact DerivesProgram.written sound fun token member =>
      plain token (List.takeWhile_subset _ member)

/-! ## A source text that is read -/

namespace Scan

theorem ofList_append_eq
    {first second : List Char} {source other : String} (isFirst : String.ofList first = source)
    (isSecond : String.ofList second = other) :
    String.ofList (first ++ second) = source ++ other := by
  rw [String.ofList_append, isFirst, isSecond]

end Scan

/-- A source text is the program that its tokens are. -/
theorem Program.ofSource_of_derives
    {source : String} {tokens : List Token} {finish : Token} {program : Program}
    (isScanned : scan source = .ok (tokens ++ [finish]))
    (noFinish : ∀ token ∈ tokens, token.kind ≠ .finish) (isFinish : finish.kind = .finish)
    (derives : DerivesProgram tokens program) :
    Program.ofSource source = .ok program := by
  have isRead : Program.ofTokens (tokens ++ [finish]) = .ok program :=
    (ofTokens_append_finish noFinish isFinish).trans (read_of_derivesProgram finish derives)
  rw [Program.ofSource, isScanned]
  change (Program.ofTokens _).mapError _ = _
  rw [isRead]
  rfl

/-- The tokens of a struct that has itself as a field, with an empty main block behind. -/
def selfContainedTokens : List Token :=
  [⟨.structWord, "struct", ⟨1, 1⟩⟩, ⟨.identifier, "A", ⟨1, 8⟩⟩, ⟨.leftBrace, "\x7b", ⟨1, 9⟩⟩,
    ⟨.identifier, "A", ⟨1, 10⟩⟩, ⟨.identifier, "a", ⟨1, 12⟩⟩, ⟨.semicolon, ";", ⟨1, 13⟩⟩,
    ⟨.rightBrace, "\x7d", ⟨1, 14⟩⟩, ⟨.mainWord, "main", ⟨1, 15⟩⟩,
    ⟨.leftBrace, "\x7b", ⟨1, 19⟩⟩, ⟨.rightBrace, "\x7d", ⟨1, 20⟩⟩]

/-- The program that these tokens are. -/
def selfContained : Program :=
  ⟨[⟨"A", [.declare [⟨"a", .struct "A", ⟨1, 12⟩⟩] ⟨1, 10⟩], ⟨1, 9⟩, ⟨1, 1⟩⟩], [],
    some ⟨.block [] ⟨1, 19⟩, ⟨1, 15⟩⟩, ⟨1, 1⟩⟩

theorem scan_selfContained :
    scan "struct A\x7bA a;\x7dmain\x7b\x7d" =
      .ok (selfContainedTokens ++ [⟨.finish, "", ⟨1, 21⟩⟩]) :=
  Scan.scan_of_scansTo rfl (by decide +kernel)

theorem derives_selfContained : DerivesProgram selfContainedTokens selfContained := by
  have field : DerivesVariables (selfContainedTokens.drop 3)
      [⟨"a", .struct "A", ⟨1, 12⟩⟩] (selfContainedTokens.drop 6) :=
    .ofNames (.struct rfl) (.last ⟨rfl, rfl⟩) rfl
  have struct : DerivesStruct selfContainedTokens
      ⟨"A", [.declare [⟨"a", .struct "A", ⟨1, 12⟩⟩] ⟨1, 10⟩], ⟨1, 9⟩, ⟨1, 1⟩⟩
      (selfContainedTokens.drop 7) :=
    .struct rfl rfl rfl (.more (.fields field) .none) rfl
  exact .program (.struct struct .none) rfl (.block rfl .none rfl)

theorem Program.ofTokens_selfContained :
    Program.ofTokens (selfContainedTokens ++ [⟨.finish, "", ⟨1, 21⟩⟩]) = .ok selfContained :=
  (ofTokens_append_finish (by decide) rfl).trans (read_of_derivesProgram _ derives_selfContained)

theorem Program.ofSource_selfContained :
    Program.ofSource "struct A\x7bA a;\x7dmain\x7b\x7d" = .ok selfContained :=
  ofSource_of_derives scan_selfContained (by decide) rfl derives_selfContained

end StructLang
