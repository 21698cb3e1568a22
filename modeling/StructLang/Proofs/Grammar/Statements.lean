import StructLang.Proofs.Grammar.Expressions
import StructLang.Proofs.Grammar.Types
import StructLang.Stmt.Read

/-!
# The grammar of statements

A statement that ends with an `if` without `else` may not stand before an `else`, so every `else`
belongs to the nearest `if` that has none. An expression is a statement only if it is a call or an
operation on a list. Declared variables have the place of their name, parameters that of their
type, and every statement that of its first token.
-/

namespace StructLang.Grammar

open Reader

/-! ## Names and parameters -/

/-- The tokens up to a rest are texts of one kind with commas between them. -/
inductive DerivesSeries {alpha : Type} (item : List Token → alpha → List Token → Prop) :
    List Token → List alpha → List Token → Prop
  | last {tokens rest : List Token} {found : alpha} :
      item tokens found rest →
      DerivesSeries item tokens [found] rest
  | more {comma : Token} {tokens middle rest : List Token} {head : alpha} {tail : List alpha} :
      item tokens head (comma :: middle) →
      comma.kind = .comma →
      DerivesSeries item middle tail rest →
      DerivesSeries item tokens (head :: tail) rest

/-- The token before a rest is a name. -/
def DerivesName (tokens : List Token) (name : Token) (rest : List Token) : Prop :=
  tokens = name :: rest ∧ name.kind = .identifier

/-- The tokens up to a rest are a parameter: a type and a name. -/
inductive DerivesParameter : List Token → VariableDecl → List Token → Prop
  | parameter {name : Token} {tokens rest : List Token} {type : Ty} :
      DerivesType tokens type (name :: rest) →
      name.kind = .identifier →
      DerivesParameter tokens ⟨name.text, type, placeOf tokens⟩ rest

/-- The tokens up to a rest are parameters in parentheses. -/
inductive DerivesParameters : List Token → List VariableDecl → List Token → Prop
  | none {opening closing : Token} {rest : List Token} :
      opening.kind = .leftParen →
      closing.kind = .rightParen →
      DerivesParameters (opening :: closing :: rest) [] rest
  | some {opening closing : Token} {tokens rest : List Token} {parameters : List VariableDecl} :
      opening.kind = .leftParen →
      DerivesSeries DerivesParameter tokens parameters (closing :: rest) →
      closing.kind = .rightParen →
      DerivesParameters (opening :: tokens) parameters rest

/-- The tokens up to a rest declare names of one type, each at the place of its name. -/
inductive DerivesVariables : List Token → List VariableDecl → List Token → Prop
  | ofNames {semicolon : Token} {tokens middle rest names : List Token} {type : Ty} :
      DerivesType tokens type middle →
      DerivesSeries DerivesName middle names (semicolon :: rest) →
      semicolon.kind = .semicolon →
      DerivesVariables tokens (names.map fun name => ⟨name.text, type, name.position⟩) rest

/-! ## Statements -/

/-- A statement that ends with an `if` without `else`. -/
inductive EndsOpen : Stmt → Prop
  | branch (condition : Expr) (thenBody : Stmt) (position : Position) :
      EndsOpen (.branch condition thenBody .absent position)
  | branchElse (condition : Expr) (thenBody : Stmt) {elseBody : Stmt} (position : Position) :
      EndsOpen elseBody →
      EndsOpen (.branch condition thenBody elseBody position)
  | loop (condition : Expr) {body : Stmt} (position : Position) :
      EndsOpen body →
      EndsOpen (.loop condition body position)

/-- The tokens up to a rest are an expression in parentheses. -/
inductive DerivesCondition : List Token → Expr → List Token → Prop
  | condition {opening closing : Token} {tokens rest : List Token} {expression : Expr} :
      opening.kind = .leftParen →
      DerivesExpr .whole tokens expression (closing :: rest) →
      closing.kind = .rightParen →
      DerivesCondition (opening :: tokens) expression rest

mutual

/-- The tokens up to a rest are the text of a statement. -/
inductive DerivesStmt : List Token → Stmt → List Token → Prop
  | block {tokens rest : List Token} {statement : Stmt} :
      DerivesBlock tokens statement rest →
      DerivesStmt tokens statement rest
  | declare {tokens rest : List Token} {declared : List VariableDecl} :
      DerivesVariables tokens declared rest →
      DerivesStmt tokens (.declare declared (placeOf tokens)) rest
  | assign {mark semicolon : Token} {tokens middle rest : List Token} {target value : Expr} :
      DerivesExpr .whole tokens target (mark :: middle) →
      mark.kind = .assign →
      DerivesExpr .whole middle value (semicolon :: rest) →
      semicolon.kind = .semicolon →
      DerivesStmt tokens (.assign target value (placeOf tokens)) rest
  | call {semicolon : Token} {tokens rest : List Token} {callee : Expr}
      {arguments : List Expr} {position : Position} :
      DerivesExpr .whole tokens (.call callee arguments position) (semicolon :: rest) →
      semicolon.kind = .semicolon →
      DerivesStmt tokens (.call (.call callee arguments position) (placeOf tokens)) rest
  | append {semicolon : Token} {tokens rest : List Token} {list element : Expr}
      {position : Position} :
      DerivesExpr .whole tokens (.append list element position) (semicolon :: rest) →
      semicolon.kind = .semicolon →
      DerivesStmt tokens (.append (.append list element position) (placeOf tokens)) rest
  | size {semicolon : Token} {tokens rest : List Token} {list : Expr} {position : Position} :
      DerivesExpr .whole tokens (.size list position) (semicolon :: rest) →
      semicolon.kind = .semicolon →
      DerivesStmt tokens (.size (.size list position) (placeOf tokens)) rest
  | branch {word : Token} {tokens middle rest : List Token} {condition : Expr}
      {thenBody : Stmt} :
      word.kind = .ifWord →
      DerivesCondition tokens condition middle →
      DerivesStmt middle thenBody rest →
      DerivesStmt (word :: tokens) (.branch condition thenBody .absent word.position) rest
  | branchElse {word elseWord : Token} {tokens middle others rest : List Token}
      {condition : Expr} {thenBody elseBody : Stmt} :
      word.kind = .ifWord →
      DerivesCondition tokens condition middle →
      DerivesStmt middle thenBody (elseWord :: others) →
      ¬ EndsOpen thenBody →
      elseWord.kind = .elseWord →
      DerivesStmt others elseBody rest →
      DerivesStmt (word :: tokens) (.branch condition thenBody elseBody word.position) rest
  | loop {word : Token} {tokens middle rest : List Token} {condition : Expr} {body : Stmt} :
      word.kind = .whileWord →
      DerivesCondition tokens condition middle →
      DerivesStmt middle body rest →
      DerivesStmt (word :: tokens) (.loop condition body word.position) rest
  | display {word semicolon : Token} {tokens rest : List Token} {argument : Expr} :
      word.kind = .displayWord →
      DerivesCondition tokens argument (semicolon :: rest) →
      semicolon.kind = .semicolon →
      DerivesStmt (word :: tokens) (.display argument word.position) rest
  | giveBackNothing {word semicolon : Token} {rest : List Token} :
      word.kind = .returnWord →
      semicolon.kind = .semicolon →
      DerivesStmt (word :: semicolon :: rest) (.giveBack none word.position) rest
  | giveBack {word semicolon : Token} {tokens rest : List Token} {value : Expr} :
      word.kind = .returnWord →
      DerivesExpr .whole tokens value (semicolon :: rest) →
      semicolon.kind = .semicolon →
      DerivesStmt (word :: tokens) (.giveBack (some value) word.position) rest

/-- The tokens up to a rest are statements in braces. -/
inductive DerivesBlock : List Token → Stmt → List Token → Prop
  | block {opening closing : Token} {tokens rest : List Token} {statements : List Stmt} :
      opening.kind = .leftBrace →
      DerivesStmts tokens statements (closing :: rest) →
      closing.kind = .rightBrace →
      DerivesBlock (opening :: tokens) (.block statements opening.position) rest

/-- The tokens up to a rest are statements. -/
inductive DerivesStmts : List Token → List Stmt → List Token → Prop
  | none {rest : List Token} :
      DerivesStmts rest [] rest
  | more {tokens middle rest : List Token} {head : Stmt} {tail : List Stmt} :
      DerivesStmt tokens head middle →
      DerivesStmts middle tail rest →
      DerivesStmts tokens (head :: tail) rest

end

/-! ## Readings are derivations -/

theorem DerivesType.next_position
    {tokens rest : List Token} {type : Ty}
    (derives : DerivesType tokens type rest) (finish : Token) :
    (next finish tokens).position = placeOf tokens := by
  cases derives <;> rfl

theorem sound_readMoreNames
    (finish : Token) (thing : NamedThing) (tokens : List Token) :
    Sound tokens
      (fun names rest => ∀ start name, DerivesName start name tokens →
        DerivesSeries DerivesName start (name :: names) rest)
      (readMoreNames finish thing tokens) := by
  rw [readMoreNames_eq]
  exact sound_more tokens .last .more (fun rest _ => sound_expect finish _ _ rest)
    fun others _ => sound_readMoreNames finish thing others
termination_by tokens.length

theorem sound_readNamesAfter
    (finish : Token) (thing : NamedThing) (first : Token) (tokens : List Token) :
    Sound tokens
      (fun names rest => ∀ start, DerivesName start first tokens →
        ∃ semicolon, DerivesSeries DerivesName start names (semicolon :: rest) ∧
          semicolon.kind = .semicolon)
      (readNamesAfter finish thing first tokens) := by
  refine (sound_readMoreNames finish thing tokens).bind fun others closed _ derives => ?_
  refine (sound_expect finish _ _ closed).bind ?_
  rintro semicolon rest _ ⟨closedShape, isSemicolon⟩
  subst closedShape
  exact Sound.value (fun start isName => ⟨semicolon, derives _ _ isName, isSemicolon⟩)
    (List.suffix_refl _)

theorem sound_readParameter
    (finish : Token) (tokens : List Token) :
    Sound tokens (DerivesParameter tokens) (readParameter finish tokens) := by
  refine (sound_readType finish tokens).bind fun type middle _ derives => ?_
  refine (sound_expect finish _ _ middle).bind ?_
  rintro name rest _ ⟨middleShape, isName⟩
  subst middleShape
  rw [derives.next_position finish]
  exact Sound.value (.parameter derives isName) (List.suffix_refl _)

theorem sound_readMoreParameters
    (finish : Token) (tokens : List Token) :
    Sound tokens
      (fun parameters rest => ∀ start first, DerivesParameter start first tokens →
        DerivesSeries DerivesParameter start (first :: parameters) rest)
      (readMoreParameters finish tokens) := by
  rw [readMoreParameters_eq]
  exact sound_more tokens .last .more (fun rest _ => sound_readParameter finish rest)
    fun others _ => sound_readMoreParameters finish others
termination_by tokens.length

theorem sound_readParameters
    (finish : Token) (tokens : List Token) :
    Sound tokens (DerivesParameters tokens) (readParameters finish tokens) := by
  refine (sound_expect finish _ _ tokens).bind ?_
  rintro opening inner _ ⟨openingShape, isOpening⟩
  subst openingShape
  dsimp only
  split
  case h_1 closing rest shorter accepted =>
    obtain ⟨shape, isClosing⟩ := accept_eq_some accepted
    dsimp only at shape isClosing
    subst shape
    exact Sound.value (.none isOpening isClosing) (List.suffix_cons _ _)
  case h_2 =>
    refine (sound_readParameter finish inner).bind fun head middle _ derivesHead => ?_
    refine (sound_readMoreParameters finish middle).bind fun tail closed _ derives => ?_
    refine (sound_expect finish _ _ closed).bind ?_
    rintro closing rest _ ⟨closedShape, isClosing⟩
    subst closedShape
    exact Sound.value (.some isOpening (derives _ _ derivesHead) isClosing)
      (List.suffix_refl _)

theorem sound_readDeclaration
    (finish : Token) (tokens : List Token) :
    Sound tokens
      (fun statement rest => DerivesStmt tokens statement rest ∧ ¬ EndsOpen statement)
      (Stmt.readDeclaration finish tokens) := by
  refine (sound_readType finish tokens).bind fun type middle _ derivesType => ?_
  refine (sound_expect finish _ _ middle).bind fun first others _ isFirst => ?_
  refine (sound_readNamesAfter finish _ first others).bind fun names rest _ derives => ?_
  obtain ⟨semicolon, derivesNames, isSemicolon⟩ := derives middle isFirst
  rw [derivesType.next_position finish]
  refine Sound.value ⟨.declare (.ofNames derivesType derivesNames isSemicolon), ?_⟩
    (List.suffix_refl _)
  intro isOpen
  cases isOpen

theorem sound_readCondition
    (finish : Token) (word : TokenKind) (tokens : List Token) :
    Sound tokens (DerivesCondition tokens) (Stmt.readCondition finish word tokens) := by
  refine (sound_expect finish _ _ tokens).bind ?_
  rintro opening inner _ ⟨openingShape, isOpening⟩
  refine (sound_readExpr finish inner).bind fun condition closed _ derives => ?_
  refine (sound_expect finish _ _ closed).bind ?_
  rintro closing rest _ ⟨closedShape, isClosing⟩
  subst openingShape closedShape
  exact Sound.value (.condition isOpening derives isClosing) (List.suffix_refl _)

theorem sound_readDisplay
    (finish word : Token) (isWord : word.kind = .displayWord) (tokens : List Token) :
    Sound tokens
      (fun statement rest =>
        DerivesStmt (word :: tokens) statement rest ∧ ¬ EndsOpen statement)
      (Stmt.readDisplay finish word.position tokens) := by
  refine (sound_expect finish _ _ tokens).bind ?_
  rintro opening inner _ ⟨openingShape, isOpening⟩
  refine (sound_readExpr finish inner).bind fun argument closed _ derives => ?_
  refine (sound_expect finish _ _ closed).bind ?_
  rintro closing middle _ ⟨closedShape, isClosing⟩
  refine (sound_expect finish _ _ middle).bind ?_
  rintro semicolon rest _ ⟨middleShape, isSemicolon⟩
  subst openingShape closedShape middleShape
  refine Sound.value
    ⟨.display isWord (.condition isOpening derives isClosing) isSemicolon, ?_⟩
    (List.suffix_refl _)
  intro isOpen
  cases isOpen

theorem sound_readReturn
    (finish word : Token) (isWord : word.kind = .returnWord) (tokens : List Token) :
    Sound tokens
      (fun statement rest =>
        DerivesStmt (word :: tokens) statement rest ∧ ¬ EndsOpen statement)
      (Stmt.readReturn finish word.position tokens) := by
  rw [Stmt.readReturn]
  split
  case h_1 semicolon rest shorter accepted =>
    obtain ⟨shape, isSemicolon⟩ := accept_eq_some accepted
    dsimp only at shape isSemicolon
    refine Sound.value ⟨?_, fun isOpen => by cases isOpen⟩ (shape ▸ List.suffix_cons _ _)
    rw [shape]
    exact .giveBackNothing isWord isSemicolon
  case h_2 =>
    refine (sound_readExpr finish tokens).bind fun value closed _ derives => ?_
    refine (sound_expect finish _ _ closed).bind ?_
    rintro semicolon rest _ ⟨closedShape, isSemicolon⟩
    subst closedShape
    exact Sound.value ⟨.giveBack isWord derives isSemicolon, fun isOpen => by cases isOpen⟩
      (List.suffix_refl _)

theorem derivesStmt_of_ofExpression?
    {tokens rest : List Token} {semicolon : Token} {expression : Expr} {statement : Stmt}
    (derives : DerivesExpr .whole tokens expression (semicolon :: rest))
    (isSemicolon : semicolon.kind = .semicolon)
    (isStatement : Stmt.ofExpression? expression (placeOf tokens) = some statement) :
    DerivesStmt tokens statement rest ∧ ¬ EndsOpen statement := by
  cases expression <;> cases isStatement
  · exact ⟨.size derives isSemicolon, nofun⟩
  · exact ⟨.append derives isSemicolon, nofun⟩
  · exact ⟨.call derives isSemicolon, nofun⟩

theorem DerivesExpr.next_position
    {form : ExprForm} {tokens rest : List Token} {expression : Expr}
    (derives : DerivesExpr form tokens expression rest) (finish : Token) :
    (next finish tokens).position = placeOf tokens := by
  obtain ⟨first, others, rfl, _⟩ := derives.starts
  rfl

theorem sound_readSimple
    (finish : Token) (tokens : List Token) :
    Sound tokens
      (fun statement rest => DerivesStmt tokens statement rest ∧ ¬ EndsOpen statement)
      (Stmt.readSimple finish tokens) := by
  refine (sound_readExpr finish tokens).bind fun expression middle _ derives => ?_
  rw [derives.next_position finish]
  dsimp only
  split
  case h_1 mark others shorter accepted =>
    obtain ⟨shape, isMark⟩ := accept_eq_some accepted
    dsimp only at shape isMark
    refine Sound.of_suffix others ?_ (shape ▸ List.suffix_cons _ _)
    refine (sound_readExpr finish others).bind fun value closed _ derivesValue => ?_
    refine (sound_expect finish _ _ closed).bind ?_
    rintro semicolon rest _ ⟨closedShape, isSemicolon⟩
    subst closedShape
    have isClosed : ¬ EndsOpen (.assign expression value (placeOf tokens)) := by
      intro isOpen
      cases isOpen
    exact Sound.value ⟨.assign (shape ▸ derives) isMark derivesValue isSemicolon, isClosed⟩
      (List.suffix_refl _)
  case h_2 =>
    refine (sound_expect finish _ _ middle).bind ?_
    rintro semicolon rest _ ⟨closedShape, isSemicolon⟩
    subst closedShape
    dsimp only
    split
    case h_1 statement isStatement =>
      exact Sound.value (derivesStmt_of_ofExpression? derives isSemicolon isStatement)
        (List.suffix_refl _)
    case h_2 => exact Sound.fault _

mutual

/-- A statement that ends with an `if` without `else` is never read before an `else`. -/
theorem sound_readStmt
    (finish : Token) (tokens : List Token) :
    Sound tokens
      (fun statement rest => DerivesStmt tokens statement rest ∧
        (startsWith .elseWord rest = true → ¬ EndsOpen statement))
      (Stmt.read finish tokens) := by
  rw [Stmt.read.eq_def]
  match tokens with
  | [] =>
      exact (sound_readSimple finish []).imp
        fun _ _ ⟨derives, closed⟩ => ⟨derives, fun _ => closed⟩
  | first :: others =>
      have suffix : others <:+ first :: others := List.suffix_cons _ _
      dsimp only
      split
      case h_1 =>
        exact (sound_readBlock finish (first :: others)).imp
          fun _ _ derives => ⟨.block derives, fun _ isOpen => by cases derives; cases isOpen⟩
      case h_2 isIf =>
        refine Sound.of_suffix others ?_ suffix
        refine (sound_readCondition finish _ others).bind
          fun condition afterCondition _ derivesCondition => ?_
        refine (sound_readStmt finish afterCondition).bind ?_
        rintro thenBody afterThen _ ⟨derivesThen, thenCloses⟩
        refine (sound_readElse finish afterThen).bind fun elseBody rest _ means => ?_
        refine Sound.value ?_ (List.suffix_refl _)
        rcases means with ⟨rfl, rfl, noElse⟩ |
          ⟨elseWord, middle, rfl, isElse, derivesElse, elseCloses⟩
        · refine ⟨.branch isIf derivesCondition derivesThen, fun before => ?_⟩
          rw [noElse] at before
          cases before
        · have beforeElse : startsWith .elseWord (elseWord :: middle) = true := by
            simp [startsWith, isElse]
          refine ⟨.branchElse isIf derivesCondition derivesThen (thenCloses beforeElse) isElse
            derivesElse, fun before isOpen => ?_⟩
          cases isOpen with
          | branch => cases derivesElse with | block derives => cases derives
          | branchElse _ _ _ elseIsOpen => exact elseCloses before elseIsOpen
      case h_3 isWhile =>
        refine Sound.of_suffix others ?_ suffix
        refine (sound_readCondition finish _ others).bind
          fun condition afterCondition _ derivesCondition => ?_
        refine (sound_readStmt finish afterCondition).bind ?_
        rintro body rest _ ⟨derivesBody, bodyCloses⟩
        refine Sound.value ⟨.loop isWhile derivesCondition derivesBody, fun before isOpen => ?_⟩
          (List.suffix_refl _)
        cases isOpen with
        | loop _ _ bodyIsOpen => exact bodyCloses before bodyIsOpen
      case h_4 isDisplay =>
        refine Sound.of_suffix others ?_ suffix
        refine (sound_readDisplay finish first isDisplay others).bind ?_
        rintro statement rest _ ⟨derives, closes⟩
        exact Sound.value ⟨derives, fun _ => closes⟩ (List.suffix_refl _)
      case h_5 isReturn =>
        refine Sound.of_suffix others ?_ suffix
        refine (sound_readReturn finish first isReturn others).bind ?_
        rintro statement rest _ ⟨derives, closes⟩
        exact Sound.value ⟨derives, fun _ => closes⟩ (List.suffix_refl _)
      case h_6 =>
        split
        · exact (sound_readDeclaration finish (first :: others)).imp
            fun _ _ ⟨derives, closed⟩ => ⟨derives, fun _ => closed⟩
        · exact (sound_readSimple finish (first :: others)).imp
            fun _ _ ⟨derives, closed⟩ => ⟨derives, fun _ => closed⟩
termination_by (tokens.length, 1)

theorem sound_readElse
    (finish : Token) (tokens : List Token) :
    Sound tokens
      (fun body rest =>
        (body = .absent ∧ rest = tokens ∧ startsWith .elseWord tokens = false) ∨
        ∃ elseWord middle, tokens = elseWord :: middle ∧ elseWord.kind = .elseWord ∧
          DerivesStmt middle body rest ∧
          (startsWith .elseWord rest = true → ¬ EndsOpen body))
      (Stmt.readElse finish tokens) := by
  rw [Stmt.readElse.eq_def]
  split
  case h_1 noElse =>
    exact Sound.value (Or.inl ⟨rfl, rfl, accept_eq_none_iff.mp noElse⟩) (List.suffix_refl _)
  case h_2 elseWord middle shorter accepted =>
    obtain ⟨shape, isElse⟩ := accept_eq_some accepted
    dsimp only at shape isElse
    refine Sound.of_suffix middle ?_ (shape ▸ List.suffix_cons _ _)
    refine (sound_readStmt finish middle).bind ?_
    rintro body rest _ ⟨derives, closes⟩
    exact Sound.value (Or.inr ⟨elseWord, middle, shape, isElse, derives, closes⟩)
      (List.suffix_refl _)
termination_by (tokens.length, 0)

theorem sound_readBlock
    (finish : Token) (tokens : List Token) :
    Sound tokens (DerivesBlock tokens) (Stmt.readBlock finish tokens) := by
  rw [Stmt.readBlock.eq_def]
  refine (sound_expect finish _ _ tokens).bind ?_
  rintro opening inner shorter ⟨openingShape, isOpening⟩
  refine (sound_readStmts finish inner).bind fun statements closed _ derives => ?_
  refine (sound_expect finish _ _ closed).bind ?_
  rintro closing rest _ ⟨closedShape, isClosing⟩
  subst openingShape closedShape
  exact Sound.value (.block isOpening derives isClosing) (List.suffix_refl _)
termination_by (tokens.length, 0)

theorem sound_readStmts
    (finish : Token) (tokens : List Token) :
    Sound tokens (DerivesStmts tokens) (Stmt.readAll finish tokens) := by
  rw [Stmt.readAll_eq]
  exact sound_upToBrace .none .more ((sound_readStmt finish tokens).imp fun _ _ sound => sound.1)
    fun rest _ => sound_readStmts finish rest
termination_by (tokens.length, 2)

end

/-! ## Derivations of names and parameters are read -/

/-- A series is read by the reader of its first item and that of further ones. -/
theorem yields_series
    {alpha : Type} {item : List Token → alpha → List Token → Prop}
    {one : (tokens : List Token) → Reading alpha tokens.length}
    {further : (tokens : List Token) → Reading (List alpha) (tokens.length + 1)}
    {tokens rest : List Token} {found : List alpha}
    (isMore : ∀ tokens, further tokens = more one further tokens)
    (yieldsOne : ∀ {tokens head rest}, item tokens head rest → Yields (one tokens) head rest)
    (derives : DerivesSeries item tokens found rest) (noComma : startsWith .comma rest = false) :
    ∃ head tail middle, found = head :: tail ∧ item tokens head middle ∧
      Yields (further middle) tail rest := by
  induction derives with
  | last isItem =>
      refine ⟨_, _, _, rfl, isItem, ?_⟩
      rw [isMore]
      exact yields_more_nil noComma
  | more isItem isComma derivesTail inductionHypothesis =>
      obtain ⟨head, tail, middle, rfl, isHead, yields⟩ := inductionHypothesis noComma
      refine ⟨_, _, _, rfl, isItem, ?_⟩
      rw [isMore]
      exact yields_more_cons isComma (yieldsOne isHead) yields

theorem DerivesName.yields
    (finish : Token) (thing : NamedThing) {tokens rest : List Token} {name : Token}
    (isName : DerivesName tokens name rest) :
    Yields (expectName finish thing tokens) name rest := by
  obtain ⟨rfl, isIdentifier⟩ := isName
  rw [expectName, expect_cons _ _ _ isIdentifier]
  rfl

theorem yields_names
    (finish : Token) (thing : NamedThing) {tokens rest names : List Token}
    (derives : DerivesSeries DerivesName tokens names rest)
    (noComma : startsWith .comma rest = false) :
    ∃ head tail middle, names = head :: tail ∧ tokens = head :: middle ∧
      head.kind = .identifier ∧ Yields (readMoreNames finish thing middle) tail rest := by
  obtain ⟨head, tail, middle, isAll, ⟨shape, isIdentifier⟩, yields⟩ :=
    yields_series (readMoreNames_eq finish thing) (DerivesName.yields finish thing) derives noComma
  exact ⟨head, tail, middle, isAll, shape, isIdentifier, yields⟩

theorem yields_readNamesAfter
    (finish : Token) (thing : NamedThing) (first : Token) {semicolon : Token}
    {tokens rest names : List Token}
    (yields : Yields (readMoreNames finish thing tokens) names (semicolon :: rest))
    (isSemicolon : semicolon.kind = .semicolon) :
    Yields (readNamesAfter finish thing first tokens) (first :: names) rest := by
  obtain ⟨_, equality⟩ := yields.exists_eq
  simp only [readNamesAfter, bind, Except.bind, equality, expectMark,
    expect_cons _ _ _ isSemicolon]
  rfl

theorem yields_readParameter
    (finish : Token) {tokens rest : List Token} {parameter : VariableDecl}
    (derives : DerivesParameter tokens parameter rest) :
    Yields (readParameter finish tokens) parameter rest := by
  cases derives with
  | parameter derivesType isName =>
      obtain ⟨_, equality⟩ := (yields_readType finish derivesType).exists_eq
      simp only [readParameter, bind, Except.bind, equality, expectName,
        expect_cons _ _ _ isName, derivesType.next_position finish]
      rfl

theorem yields_parameters
    (finish : Token) {tokens rest : List Token} {parameters : List VariableDecl}
    (derives : DerivesSeries DerivesParameter tokens parameters rest)
    (noComma : startsWith .comma rest = false) :
    ∃ head tail middle, parameters = head :: tail ∧
      Yields (readParameter finish tokens) head middle ∧
      Yields (readMoreParameters finish middle) tail rest := by
  obtain ⟨head, tail, middle, isAll, isParameter, yields⟩ :=
    yields_series (readMoreParameters_eq finish) (yields_readParameter finish) derives noComma
  exact ⟨head, tail, middle, isAll, yields_readParameter finish isParameter, yields⟩

theorem DerivesType.not_starts_rightParen
    {tokens rest : List Token} {type : Ty}
    (derives : DerivesType tokens type rest) :
    startsWith .rightParen tokens = false := by
  cases derives <;> exact startsWith_cons _ (by assumption) (by decide)

theorem yields_readParameters
    (finish : Token) {tokens rest : List Token} {parameters : List VariableDecl}
    (derives : DerivesParameters tokens parameters rest) :
    Yields (readParameters finish tokens) parameters rest := by
  cases derives with
  | none isOpening isClosing =>
      simp only [readParameters, expectMark, expect_cons _ _ _ isOpening, bind, Except.bind,
        accept_cons _ isClosing]
      rfl
  | @some opening closing inner _ _ isOpening derives isClosing =>
      obtain ⟨head, tail, middle, rfl, headYields, tailYields⟩ :=
        yields_parameters finish derives (startsWith_cons _ isClosing (by decide))
      obtain ⟨_, headEquality⟩ := headYields.exists_eq
      obtain ⟨_, tailEquality⟩ := tailYields.exists_eq
      have notEmpty : accept .rightParen inner = none := by
        refine accept_eq_none_iff.mpr ?_
        cases derives with
        | last isParameter => cases isParameter with
          | parameter derivesType _ => exact derivesType.not_starts_rightParen
        | more isParameter _ _ => cases isParameter with
          | parameter derivesType _ => exact derivesType.not_starts_rightParen
      simp only [readParameters, expectMark, expect_cons _ _ _ isOpening, bind, Except.bind,
        notEmpty, headEquality, tailEquality, expect_cons _ _ _ isClosing]
      rfl

/-! ## Derivations of statements are read -/

/-- The tokens that start no declaration of variables and no expression. -/
def startsOwnForm : TokenKind → Bool
  | .leftBrace | .ifWord | .whileWord | .displayWord | .returnWord => true
  | _ => false

theorem readStmt_of_not_startsOwnForm
    (finish first : Token) (others : List Token)
    (isPlain : startsOwnForm first.kind = false) :
    Stmt.read finish (first :: others) =
      if Stmt.startsDeclaration (first :: others) then
        Stmt.readDeclaration finish (first :: others)
      else Stmt.readSimple finish (first :: others) := by
  rw [Stmt.read.eq_def]
  dsimp only
  split
  case h_1 kind => rw [kind] at isPlain; cases isPlain
  case h_2 kind => rw [kind] at isPlain; cases isPlain
  case h_3 kind => rw [kind] at isPlain; cases isPlain
  case h_4 kind => rw [kind] at isPlain; cases isPlain
  case h_5 kind => rw [kind] at isPlain; cases isPlain
  case h_6 => rfl

theorem DerivesType.starts
    {tokens rest : List Token} {type : Ty} {name : Token}
    (derives : DerivesType tokens type (name :: rest))
    (isName : name.kind = .identifier) :
    ∃ first others, tokens = first :: others ∧ startsOwnForm first.kind = false ∧
      Stmt.startsDeclaration tokens = true := by
  cases derives with
  | int kind | bool kind | void kind | list kind | fptr kind =>
      refine ⟨_, _, rfl, ?_, ?_⟩ <;> simp [startsOwnForm, Stmt.startsDeclaration, kind,
        TokenKind.isTypeWord]
  | struct kind =>
      refine ⟨_, _, rfl, ?_, ?_⟩ <;> simp [startsOwnForm, Stmt.startsDeclaration, kind,
        startsWith, isName]

theorem yields_readStmt_variables
    (finish : Token) {tokens rest : List Token} {declared : List VariableDecl}
    (derives : DerivesVariables tokens declared rest) :
    Yields (Stmt.read finish tokens) (.declare declared (placeOf tokens)) rest := by
  cases derives with
  | ofNames derivesType derivesNames isSemicolon =>
      obtain ⟨head, tail, middle, rfl, rfl, isHead, yields⟩ :=
        yields_names finish .localVariable derivesNames
          (startsWith_cons _ isSemicolon (by decide))
      obtain ⟨first, others, rfl, isPlain, startsDeclaration⟩ := derivesType.starts isHead
      obtain ⟨_, typeEquality⟩ := (yields_readType finish derivesType).exists_eq
      obtain ⟨_, namesEquality⟩ :=
        (yields_readNamesAfter finish _ head yields isSemicolon).exists_eq
      rw [readStmt_of_not_startsOwnForm finish first others isPlain, if_pos startsDeclaration]
      simp only [Stmt.readDeclaration, bind, Except.bind, typeEquality, expectName,
        expect_cons _ _ _ isHead, namesEquality]
      rfl

/-- An expression goes on after a first name with anything but a second one. -/
theorem DerivesExpr.rest_of_two_names
    {form : ExprForm} {first : Token} {others tokens rest : List Token} {expression : Expr} :
    DerivesExpr form tokens expression rest → tokens = first :: others →
      first.kind = .identifier → startsWith .identifier others = Bool.true → others = rest
  | .operand derives, shape, isName, twoNames
  | .unsigned derives, shape, isName, twoNames
  | .primary derives, shape, isName, twoNames =>
      derives.rest_of_two_names shape isName twoNames
  | @DerivesExpr.operation precedence _ mark _ _ _ _ _ derives isOperator _, shape, isName,
      twoNames => by
      rw [derives.rest_of_two_names shape isName twoNames] at twoNames
      have kind : mark.kind = .identifier := by simpa [startsWith] using twoNames
      rw [kind] at isOperator
      cases precedence <;> cases isOperator
  | .call derives _ kind _ _, shape, isName, twoNames
  | .index derives kind _ _, shape, isName, twoNames
  | .append derives kind _ _ _ _ _, shape, isName, twoNames
  | .size derives kind _ _ _ _, shape, isName, twoNames
  | .member derives kind _, shape, isName, twoNames => by
      rw [derives.rest_of_two_names shape isName twoNames] at twoNames
      simp [startsWith, kind] at twoNames
  | .invert kind _, shape, isName, _
  | .negate kind _, shape, isName, _
  | .integer kind _, shape, isName, _
  | .true kind, shape, isName, _
  | .false kind, shape, isName, _
  | .group kind _ _, shape, isName, _ => by
      injection shape with first
      rw [← first, kind] at isName
      cases isName
  | .name _, shape, _, _ => by
      injection shape with _ others
      exact others.symm

theorem readStmt_eq_readSimple
    (finish : Token) {tokens rest : List Token} {expression : Expr}
    (derives : DerivesExpr .whole tokens expression rest)
    (noName : startsWith .identifier rest = false) :
    Stmt.read finish tokens = Stmt.readSimple finish tokens := by
  obtain ⟨first, others, rfl, starts⟩ := derives.starts
  have isPlain : startsOwnForm first.kind = false := by
    revert starts
    cases first.kind <;> decide
  have noTypeWord : first.kind.isTypeWord = false := by
    revert starts
    cases first.kind <;> decide
  have noDeclaration : Stmt.startsDeclaration (first :: others) = false := by
    by_cases isName : first.kind = .identifier
    · cases twoNames : startsWith .identifier others with
      | false => simp [Stmt.startsDeclaration, noTypeWord, twoNames]
      | true =>
          rw [← derives.rest_of_two_names rfl isName twoNames, twoNames] at noName
          cases noName
    · simp [Stmt.startsDeclaration, noTypeWord, isName]
  rw [readStmt_of_not_startsOwnForm finish first others isPlain, noDeclaration]
  rfl

theorem yields_readStmt_expression
    (finish : Token) {tokens rest : List Token} {semicolon : Token} {expression : Expr}
    {statement : Stmt}
    (derives : DerivesExpr .whole tokens expression (semicolon :: rest))
    (isSemicolon : semicolon.kind = .semicolon)
    (isStatement : Stmt.ofExpression? expression (placeOf tokens) = some statement) :
    Yields (Stmt.read finish tokens) statement rest := by
  obtain ⟨_, equality⟩ :=
    ((readsAs_of_derivesExpr finish derives).yields_whole
      (ExprForm.stops_cons _ isSemicolon rfl)).exists_eq
  have noAssign : accept .assign (semicolon :: rest) = none :=
    accept_eq_none_iff.mpr (startsWith_cons _ isSemicolon (by decide))
  rw [readStmt_eq_readSimple finish derives (startsWith_cons _ isSemicolon (by decide))]
  simp only [Stmt.readSimple, bind, Except.bind, equality, noAssign, expectMark,
    expect_cons _ _ _ isSemicolon, derives.next_position finish, isStatement]
  rfl

theorem yields_readStmt_assign
    (finish : Token) {tokens middle rest : List Token} {mark semicolon : Token}
    {target value : Expr}
    (derivesTarget : DerivesExpr .whole tokens target (mark :: middle))
    (isMark : mark.kind = .assign)
    (derivesValue : DerivesExpr .whole middle value (semicolon :: rest))
    (isSemicolon : semicolon.kind = .semicolon) :
    Yields (Stmt.read finish tokens) (.assign target value (placeOf tokens)) rest := by
  obtain ⟨_, targetEquality⟩ :=
    ((readsAs_of_derivesExpr finish derivesTarget).yields_whole
      (ExprForm.stops_cons _ isMark rfl)).exists_eq
  obtain ⟨_, valueEquality⟩ :=
    ((readsAs_of_derivesExpr finish derivesValue).yields_whole
      (ExprForm.stops_cons _ isSemicolon rfl)).exists_eq
  rw [readStmt_eq_readSimple finish derivesTarget (startsWith_cons _ isMark (by decide))]
  simp only [Stmt.readSimple, bind, Except.bind, targetEquality, accept_cons _ isMark,
    valueEquality, expectMark, expect_cons _ _ _ isSemicolon,
    derivesTarget.next_position finish]
  rfl

theorem yields_readCondition
    (finish : Token) (word : TokenKind) {tokens rest : List Token} {condition : Expr}
    (derives : DerivesCondition tokens condition rest) :
    Yields (Stmt.readCondition finish word tokens) condition rest := by
  cases derives with
  | condition isOpening derives isClosing =>
      obtain ⟨_, equality⟩ :=
        ((readsAs_of_derivesExpr finish derives).yields_whole
          (ExprForm.stops_cons _ isClosing rfl)).exists_eq
      simp only [Stmt.readCondition, expect_cons _ _ _ isOpening, bind, Except.bind, equality,
        expectMark, expect_cons _ _ _ isClosing]
      rfl

theorem yields_readReturn
    (finish : Token) (position : Position) {tokens rest : List Token} {semicolon : Token}
    {value : Expr}
    (derives : DerivesExpr .whole tokens value (semicolon :: rest))
    (isSemicolon : semicolon.kind = .semicolon) :
    Yields (Stmt.readReturn finish position tokens) (.giveBack (some value) position) rest := by
  obtain ⟨_, equality⟩ :=
    ((readsAs_of_derivesExpr finish derives).yields_whole
      (ExprForm.stops_cons _ isSemicolon rfl)).exists_eq
  have hasValue : accept .semicolon tokens = none := by
    obtain ⟨first, others, rfl, starts⟩ := derives.starts
    refine accept_eq_none_iff.mpr (startsWith_cons others rfl fun kind => ?_)
    rw [kind] at starts
    cases starts
  simp only [Stmt.readReturn, hasValue, bind, Except.bind, equality, expectMark,
    expect_cons _ _ _ isSemicolon]
  rfl

/-- The tokens that start no statement. -/
def startsNoStatement : TokenKind → Bool
  | .rightBrace | .elseWord => true
  | _ => false

theorem DerivesStmt.starts
    {tokens rest : List Token} {statement : Stmt}
    (derives : DerivesStmt tokens statement rest) :
    ∃ first others, tokens = first :: others ∧ startsNoStatement first.kind = false := by
  have ofExpression {expression : Expr} {others : List Token}
      (derives : DerivesExpr .whole tokens expression others) :
      ∃ first others, tokens = first :: others ∧ startsNoStatement first.kind = false := by
    obtain ⟨first, others, rfl, starts⟩ := derives.starts
    refine ⟨first, others, rfl, ?_⟩
    revert starts
    cases first.kind <;> decide
  cases derives with
  | block derives => cases derives with
    | block kind => exact ⟨_, _, rfl, by rw [kind]; rfl⟩
  | declare derives => cases derives with
    | ofNames derivesType => cases derivesType with
      | int kind | bool kind | void kind | struct kind | list kind | fptr kind =>
          exact ⟨_, _, rfl, by rw [kind]; rfl⟩
  | assign derives => exact ofExpression derives
  | call derives => exact ofExpression derives
  | append derives => exact ofExpression derives
  | size derives => exact ofExpression derives
  | branch kind | branchElse kind | loop kind | display kind | giveBackNothing kind
  | giveBack kind => exact ⟨_, _, rfl, by rw [kind]; rfl⟩

theorem yields_readAll_more
    {finish : Token} {tokens middle others rest : List Token} {head : Stmt} {tail : List Stmt}
    (derives : DerivesStmt tokens head middle)
    (headYields : Yields (Stmt.read finish tokens) head others)
    (tailYields : Yields (Stmt.readAll finish others) tail rest) :
    Yields (Stmt.readAll finish tokens) (head :: tail) rest := by
  obtain ⟨first, afterFirst, rfl, starts⟩ := derives.starts
  have notClosing : first.kind ≠ .rightBrace := fun kind => by
    rw [kind] at starts
    cases starts
  rw [Stmt.readAll_eq]
  exact yields_upToBrace_cons notClosing headYields tailYields

/-- In a block no `else` follows a statement. -/
theorem DerivesStmts.no_else
    {tokens closed rest : List Token} {closing : Token} {statements : List Stmt}
    (derives : DerivesStmts tokens statements closed) (shape : closed = closing :: rest)
    (isClosing : closing.kind = .rightBrace) :
    startsWith .elseWord tokens = false := by
  cases derives with
  | none => exact shape ▸ startsWith_cons _ isClosing (by decide)
  | more derives _ =>
      obtain ⟨first, others, rfl, starts⟩ := derives.starts
      refine startsWith_cons others rfl fun kind => ?_
      rw [kind] at starts
      cases starts

mutual

/-- The reader takes every `else` it finds, so a statement that ends with an `if` without `else`
must not stand before one. -/
theorem yields_readStmt
    (finish : Token) {tokens rest : List Token} {statement : Stmt} :
    DerivesStmt tokens statement rest →
      (EndsOpen statement → startsWith .elseWord rest = false) →
      Yields (Stmt.read finish tokens) statement rest
  | .block derives, _ => yields_readStmt_block finish derives
  | .declare derives, _ => yields_readStmt_variables finish derives
  | .assign derivesTarget isMark derivesValue isSemicolon, _ =>
      yields_readStmt_assign finish derivesTarget isMark derivesValue isSemicolon
  | .call derives isSemicolon, _ =>
      yields_readStmt_expression finish derives isSemicolon rfl
  | .append derives isSemicolon, _ =>
      yields_readStmt_expression finish derives isSemicolon rfl
  | .size derives isSemicolon, _ =>
      yields_readStmt_expression finish derives isSemicolon rfl
  | .branch isIf derivesCondition derivesThen, closes => by
      have noElse := closes (.branch _ _ _)
      obtain ⟨_, conditionEquality⟩ :=
        (yields_readCondition finish .ifWord derivesCondition).exists_eq
      obtain ⟨_, thenEquality⟩ :=
        (yields_readStmt finish derivesThen fun _ => noElse).exists_eq
      rw [Stmt.read.eq_def]
      simp only [isIf, bind, Except.bind, conditionEquality, thenEquality]
      rw [Stmt.readElse.eq_def, accept_eq_none_iff.mpr noElse]
      rfl
  | .branchElse isIf derivesCondition derivesThen thenCloses isElse derivesElse, closes => by
      obtain ⟨_, conditionEquality⟩ :=
        (yields_readCondition finish .ifWord derivesCondition).exists_eq
      obtain ⟨_, thenEquality⟩ :=
        (yields_readStmt finish derivesThen fun isOpen => absurd isOpen thenCloses).exists_eq
      obtain ⟨_, elseEquality⟩ :=
        (yields_readStmt finish derivesElse
          fun isOpen => closes (.branchElse _ _ _ isOpen)).exists_eq
      rw [Stmt.read.eq_def]
      simp only [isIf, bind, Except.bind, conditionEquality, thenEquality]
      rw [Stmt.readElse.eq_def, accept_cons _ isElse]
      simp only [bind, Except.bind, elseEquality]
      rfl
  | .loop isWhile derivesCondition derivesBody, closes => by
      obtain ⟨_, conditionEquality⟩ :=
        (yields_readCondition finish .whileWord derivesCondition).exists_eq
      obtain ⟨_, bodyEquality⟩ :=
        (yields_readStmt finish derivesBody fun isOpen => closes (.loop _ _ isOpen)).exists_eq
      rw [Stmt.read.eq_def]
      simp only [isWhile, bind, Except.bind, conditionEquality, bodyEquality]
      rfl
  | .display isDisplay (.condition isOpening derives isClosing) isSemicolon, _ => by
      obtain ⟨_, equality⟩ :=
        ((readsAs_of_derivesExpr finish derives).yields_whole
          (ExprForm.stops_cons _ isClosing rfl)).exists_eq
      rw [Stmt.read.eq_def]
      simp only [isDisplay, Stmt.readDisplay, expect_cons _ _ _ isOpening, bind, Except.bind,
        equality, expectMark, expect_cons _ _ _ isClosing, expect_cons _ _ _ isSemicolon]
      rfl
  | .giveBackNothing isReturn isSemicolon, _ => by
      rw [Stmt.read.eq_def]
      simp only [isReturn, Stmt.readReturn, accept_cons _ isSemicolon]
      rfl
  | @DerivesStmt.giveBack word _ _ _ _ isReturn derives isSemicolon, _ => by
      obtain ⟨_, equality⟩ :=
        (yields_readReturn finish word.position derives isSemicolon).exists_eq
      rw [Stmt.read.eq_def]
      simp only [isReturn, bind, Except.bind, equality]
      rfl

theorem yields_readStmt_block
    (finish : Token) {tokens rest : List Token} {statement : Stmt} :
    DerivesBlock tokens statement rest → Yields (Stmt.read finish tokens) statement rest
  | .block isOpening derives isClosing => by
      obtain ⟨_, equality⟩ := (yields_readStmts finish derives rfl isClosing).exists_eq
      rw [Stmt.read.eq_def]
      simp only [isOpening]
      rw [Stmt.readBlock.eq_def]
      simp only [expectMark, expect_cons _ _ _ isOpening, bind, Except.bind, equality,
        expect_cons _ _ _ isClosing]
      rfl

theorem yields_readStmts
    (finish : Token) {tokens closed rest : List Token} {closing : Token}
    {statements : List Stmt} :
    DerivesStmts tokens statements closed → closed = closing :: rest →
      closing.kind = .rightBrace →
      Yields (Stmt.readAll finish tokens) statements (closing :: rest)
  | .none, shape, isClosing => by
      rw [Stmt.readAll_eq, shape]
      exact yields_upToBrace_nil rest isClosing
  | .more derives derivesMore, shape, isClosing => by
      have noElse := derivesMore.no_else shape isClosing
      exact yields_readAll_more derives (yields_readStmt finish derives fun _ => noElse)
        (yields_readStmts finish derivesMore shape isClosing)

end

theorem yields_readBlock
    (finish : Token) {tokens rest : List Token} {statement : Stmt}
    (derives : DerivesBlock tokens statement rest) :
    Yields (Stmt.readBlock finish tokens) statement rest := by
  cases derives with
  | block isOpening derives isClosing =>
      obtain ⟨_, equality⟩ := (yields_readStmts finish derives rfl isClosing).exists_eq
      rw [Stmt.readBlock.eq_def]
      simp only [expectMark, expect_cons _ _ _ isOpening, bind, Except.bind, equality,
        expect_cons _ _ _ isClosing]
      rfl

end StructLang.Grammar
