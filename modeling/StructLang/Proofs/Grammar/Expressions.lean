import StructLang.Expr.Read
import StructLang.Proofs.Grammar.Reading

/-!
# The grammar of expressions

`DerivesExpr form tokens expression rest` says that the tokens before `rest` are the text of an
expression of a form. Binary operators associate to the left, since only the left operand may be
of the operator's own level. Every node has the place of the first token of its own text. No rule
looks into the rest; that `append` and `size` before a parenthesis are no members is said by the
rule for calls, whose callee must not name a list operation.
-/

namespace StructLang.Grammar

open Reader

/-- The place of the first of some tokens. -/
def placeOf (tokens : List Token) : Position :=
  (tokens.head?.map (·.position)).getD .none

@[simp] theorem placeOf_cons
    (first : Token) (others : List Token) :
    placeOf (first :: others) = first.position := rfl

/-- How tightly the parts of an expression hold together. -/
inductive ExprForm
  | level (precedence : Precedence)
  | signed
  | chained
  | primary
  deriving DecidableEq, Repr

namespace ExprForm

/-- Every expression: the loosest operators bind it. -/
abbrev whole : ExprForm := level .disjunction

/-- What the operands of the operators of a level are, save for the left ones. -/
def operand : Precedence → ExprForm
  | .disjunction => level .conjunction
  | .conjunction => level .equality
  | .equality => level .comparison
  | .comparison => level .sum
  | .sum => level .product
  | .product => signed

end ExprForm

/-- The member of an owner that is called like an operation on lists. -/
inductive NamesListOperation : Expr → Prop
  | append (owner : Expr) (position : Position) :
      NamesListOperation (.member owner "append" position)
  | size (owner : Expr) (position : Position) :
      NamesListOperation (.member owner "size" position)

mutual

/-- The tokens up to a rest are the text of an expression of a form. -/
inductive DerivesExpr : ExprForm → List Token → Expr → List Token → Prop
  | operand {precedence : Precedence} {tokens rest : List Token} {expression : Expr} :
      DerivesExpr (.operand precedence) tokens expression rest →
      DerivesExpr (.level precedence) tokens expression rest
  | operation {precedence : Precedence} {operator : BinaryOp} {mark : Token}
      {tokens middle rest : List Token} {left right : Expr} :
      DerivesExpr (.level precedence) tokens left (mark :: middle) →
      precedence.operator? mark.kind = some operator →
      DerivesExpr (.operand precedence) middle right rest →
      DerivesExpr (.level precedence) tokens
        (.binary left (.binary operator) right (placeOf tokens)) rest
  | unsigned {tokens rest : List Token} {expression : Expr} :
      DerivesExpr .chained tokens expression rest →
      DerivesExpr .signed tokens expression rest
  | invert {sign : Token} {tokens rest : List Token} {operand : Expr} :
      sign.kind = .bang →
      DerivesExpr .signed tokens operand rest →
      DerivesExpr .signed (sign :: tokens) (.unary (.unary .invert) operand sign.position) rest
  | negate {sign : Token} {tokens rest : List Token} {operand : Expr} :
      sign.kind = .minus →
      DerivesExpr .signed tokens operand rest →
      DerivesExpr .signed (sign :: tokens) (.unary (.unary .negate) operand sign.position) rest
  | primary {tokens rest : List Token} {expression : Expr} :
      DerivesExpr .primary tokens expression rest →
      DerivesExpr .chained tokens expression rest
  | call {opening closing : Token} {tokens middle rest : List Token} {callee : Expr}
      {arguments : List Expr} :
      DerivesExpr .chained tokens callee (opening :: middle) →
      ¬ NamesListOperation callee →
      opening.kind = .leftParen →
      DerivesArguments middle arguments (closing :: rest) →
      closing.kind = .rightParen →
      DerivesExpr .chained tokens (.call callee arguments (placeOf tokens)) rest
  | index {opening closing : Token} {tokens middle rest : List Token} {list place : Expr} :
      DerivesExpr .chained tokens list (opening :: middle) →
      opening.kind = .leftBracket →
      DerivesExpr .whole middle place (closing :: rest) →
      closing.kind = .rightBracket →
      DerivesExpr .chained tokens (.index list place (placeOf tokens)) rest
  | append {dot name opening closing : Token} {tokens middle rest : List Token}
      {list element : Expr} :
      DerivesExpr .chained tokens list (dot :: name :: opening :: middle) →
      dot.kind = .dot →
      name.kind = .identifier →
      name.text = "append" →
      opening.kind = .leftParen →
      DerivesExpr .whole middle element (closing :: rest) →
      closing.kind = .rightParen →
      DerivesExpr .chained tokens (.append list element (placeOf tokens)) rest
  | size {dot name opening closing : Token} {tokens rest : List Token} {list : Expr} :
      DerivesExpr .chained tokens list (dot :: name :: opening :: closing :: rest) →
      dot.kind = .dot →
      name.kind = .identifier →
      name.text = "size" →
      opening.kind = .leftParen →
      closing.kind = .rightParen →
      DerivesExpr .chained tokens (.size list (placeOf tokens)) rest
  | member {dot name : Token} {tokens rest : List Token} {owner : Expr} :
      DerivesExpr .chained tokens owner (dot :: name :: rest) →
      dot.kind = .dot →
      name.kind = .identifier →
      DerivesExpr .chained tokens (.member owner name.text (placeOf tokens)) rest
  | integer {word : Token} {rest : List Token} {value : Int} :
      word.kind = .integer →
      Text.readNumeral word.text = .ok value →
      DerivesExpr .primary (word :: rest) (.integer value word.position) rest
  | true {word : Token} {rest : List Token} :
      word.kind = .trueWord →
      DerivesExpr .primary (word :: rest) (.boolean Bool.true word.position) rest
  | false {word : Token} {rest : List Token} :
      word.kind = .falseWord →
      DerivesExpr .primary (word :: rest) (.boolean Bool.false word.position) rest
  | name {word : Token} {rest : List Token} :
      word.kind = .identifier →
      DerivesExpr .primary (word :: rest) (.name word.text word.position) rest
  | group {opening closing : Token} {tokens rest : List Token} {items : List Expr} :
      opening.kind = .leftParen →
      DerivesItems tokens items (closing :: rest) →
      closing.kind = .rightParen →
      DerivesExpr .primary (opening :: tokens) (.group items opening.position) rest

/-- The tokens up to a rest are the arguments of a call. -/
inductive DerivesArguments : List Token → List Expr → List Token → Prop
  | none {rest : List Token} :
      DerivesArguments rest [] rest
  | some {tokens rest : List Token} {items : List Expr} :
      DerivesItems tokens items rest →
      DerivesArguments tokens items rest

/-- The tokens up to a rest are expressions with commas between them. -/
inductive DerivesItems : List Token → List Expr → List Token → Prop
  | last {tokens rest : List Token} {expression : Expr} :
      DerivesExpr .whole tokens expression rest →
      DerivesItems tokens [expression] rest
  | more {comma : Token} {tokens middle rest : List Token} {head : Expr} {tail : List Expr} :
      DerivesExpr .whole tokens head (comma :: middle) →
      comma.kind = .comma →
      DerivesItems middle tail rest →
      DerivesItems tokens (head :: tail) rest

end

/-- An expression has the place of the first token of its text. -/
theorem DerivesExpr.position_eq
    {form : ExprForm} {tokens rest : List Token} {expression : Expr} :
    DerivesExpr form tokens expression rest → expression.position = placeOf tokens
  | .operand derives => derives.position_eq
  | .unsigned derives => derives.position_eq
  | .primary derives => derives.position_eq
  | .operation .. | .invert .. | .negate .. | .call .. | .index .. | .append .. | .size ..
  | .member .. | .integer .. | .true .. | .false .. | .name .. | .group .. => rfl

/-- An expression without operators outside of parentheses is an expression. -/
theorem DerivesExpr.ofChained
    {tokens rest : List Token} {expression : Expr}
    (derives : DerivesExpr .chained tokens expression rest) :
    DerivesExpr .whole tokens expression rest :=
  .operand (.operand (.operand (.operand (.operand (.operand (.unsigned derives))))))

/-! ## Readings are derivations -/

theorem listOperation?_eq_none
    {called : String} {tokens : List Token}
    (isNone : Expr.listOperation? called tokens = none)
    (beforeParen : startsWith .leftParen tokens = true) :
    called ≠ "append" ∧ called ≠ "size" := by
  simp only [Expr.listOperation?, beforeParen, if_true] at isNone
  split at isNone
  · cases isNone
  · split at isNone
    · cases isNone
    · exact ⟨by assumption, by assumption⟩

theorem listOperation?_eq_some
    {called : String} {tokens : List Token} {operation : Expr.ListOperation}
    (isSome : Expr.listOperation? called tokens = some operation) :
    (operation = .append → called = "append") ∧ (operation = .size → called = "size") := by
  simp only [Expr.listOperation?] at isSome
  split at isSome
  · split at isSome
    · cases isSome
      exact ⟨fun _ => by assumption, nofun⟩
    · split at isSome
      · cases isSome
        exact ⟨nofun, fun _ => by assumption⟩
      · cases isSome
  · cases isSome

mutual

theorem sound_readExpr
    (finish : Token) (tokens : List Token) :
    Sound tokens (DerivesExpr .whole tokens) (Expr.read finish tokens) := by
  rw [Expr.read.eq_def]
  exact sound_readLevel finish .disjunction tokens
termination_by (tokens.length, 16)

theorem sound_readLevel
    (finish : Token) (precedence : Precedence) (tokens : List Token) :
    Sound tokens (DerivesExpr (.level precedence) tokens)
      (Expr.readLevel finish precedence tokens) := by
  rw [Expr.readLevel.eq_def]
  refine (sound_readOperand finish precedence tokens).bind fun left middle _ derivesLeft => ?_
  refine (sound_readOperations finish precedence left middle).bind fun whole rest _ derives => ?_
  exact Sound.value (derives tokens (.operand derivesLeft)) (List.suffix_refl _)
termination_by (tokens.length, 2 * precedence.rank + 5)

theorem sound_readOperand
    (finish : Token) (precedence : Precedence) (tokens : List Token) :
    Sound tokens (DerivesExpr (.operand precedence) tokens)
      (Expr.readOperand finish precedence tokens) := by
  rw [Expr.readOperand.eq_def]
  cases precedence with
  | disjunction => exact sound_readLevel finish .conjunction tokens
  | conjunction => exact sound_readLevel finish .equality tokens
  | equality => exact sound_readLevel finish .comparison tokens
  | comparison => exact sound_readLevel finish .sum tokens
  | sum => exact sound_readLevel finish .product tokens
  | product => exact sound_readUnary finish tokens
termination_by (tokens.length, 2 * precedence.rank + 4)

/-- Whatever text the left operand has, the operations after it make it longer. -/
theorem sound_readOperations
    (finish : Token) (precedence : Precedence) (left : Expr) (tokens : List Token) :
    Sound tokens
      (fun whole rest => ∀ start, DerivesExpr (.level precedence) start left tokens →
        DerivesExpr (.level precedence) start whole rest)
      (Expr.readOperations finish precedence left tokens) := by
  rw [Expr.readOperations.eq_def]
  match tokens with
  | [] => exact Sound.value (fun _ derives => derives) (List.suffix_refl _)
  | first :: others =>
      dsimp only
      split
      case h_1 => exact Sound.value (fun _ derives => derives) (List.suffix_refl _)
      case h_2 operator isOperator =>
        refine Sound.of_suffix others ?_ (List.suffix_cons _ _)
        refine (sound_readOperand finish precedence others).bind
          fun right middle _ derivesRight => ?_
        refine (sound_readOperations finish precedence _ middle).bind
          fun whole rest _ derives => ?_
        refine Sound.value (fun start derivesLeft => derives start ?_) (List.suffix_refl _)
        rw [derivesLeft.position_eq]
        exact .operation derivesLeft isOperator derivesRight
termination_by (tokens.length, 0)

theorem sound_readUnary
    (finish : Token) (tokens : List Token) :
    Sound tokens (DerivesExpr .signed tokens) (Expr.readUnary finish tokens) := by
  rw [Expr.readUnary.eq_def]
  match tokens with
  | [] => exact (sound_readPostfix finish []).imp fun _ _ derives => .unsigned derives
  | first :: others =>
      have suffix : others <:+ first :: others := List.suffix_cons _ _
      dsimp only
      split
      case h_1 isBang =>
        refine Sound.of_suffix others ?_ suffix
        refine (sound_readUnary finish others).bind fun operand rest _ derives => ?_
        exact Sound.value (.invert isBang derives) (List.suffix_refl _)
      case h_2 isMinus =>
        refine Sound.of_suffix others ?_ suffix
        refine (sound_readUnary finish others).bind fun operand rest _ derives => ?_
        exact Sound.value (.negate isMinus derives) (List.suffix_refl _)
      case h_3 =>
        exact (sound_readPostfix finish (first :: others)).imp
          fun _ _ derives => .unsigned derives
termination_by (tokens.length, 3)

theorem sound_readPostfix
    (finish : Token) (tokens : List Token) :
    Sound tokens (DerivesExpr .chained tokens) (Expr.readPostfix finish tokens) := by
  rw [Expr.readPostfix.eq_def]
  refine (sound_readPrimary finish tokens).bind fun operand middle _ derivesOperand => ?_
  refine (sound_readSuffixes finish operand middle).bind fun whole rest _ derives => ?_
  refine Sound.value (derives tokens (.primary derivesOperand) fun _ isMember => ?_)
    (List.suffix_refl _)
  cases isMember <;> cases derivesOperand
termination_by (tokens.length, 2)

/-- Whatever text the operand has, the suffixes after it make it longer. An operand before a
parenthesis must not name a list operation, which the reader of members sees to. -/
theorem sound_readSuffixes
    (finish : Token) (operand : Expr) (tokens : List Token) :
    Sound tokens
      (fun whole rest => ∀ start, DerivesExpr .chained start operand tokens →
        (startsWith .leftParen tokens = true → ¬ NamesListOperation operand) →
        DerivesExpr .chained start whole rest)
      (Expr.readSuffixes finish operand tokens) := by
  rw [Expr.readSuffixes.eq_def]
  match tokens with
  | [] => exact Sound.value (fun _ derives _ => derives) (List.suffix_refl _)
  | first :: others =>
      have suffix : others <:+ first :: others := List.suffix_cons _ _
      dsimp only
      split
      case h_1 isParen =>
        refine Sound.of_suffix others ?_ suffix
        refine (sound_readArguments finish others).bind
          fun arguments middle _ ⟨closing, derivesArguments, isClosing⟩ => ?_
        refine (sound_readSuffixes finish _ middle).bind fun whole rest _ derives => ?_
        refine Sound.value (fun start derivesOperand noOperation => ?_) (List.suffix_refl _)
        refine derives start ?_ fun _ isMember => by cases isMember
        rw [derivesOperand.position_eq]
        exact .call derivesOperand (noOperation (by simp [startsWith, isParen])) isParen
          derivesArguments isClosing
      case h_2 isBracket =>
        refine Sound.of_suffix others ?_ suffix
        refine (sound_readExpr finish others).bind fun place closed _ derivesPlace => ?_
        refine (sound_expect finish _ _ closed).bind
          fun closing middle _ ⟨closingShape, isClosing⟩ => ?_
        subst closingShape
        refine (sound_readSuffixes finish _ middle).bind fun whole rest _ derives => ?_
        refine Sound.value (fun start derivesOperand _ => ?_) (List.suffix_refl _)
        refine derives start ?_ fun _ isMember => by cases isMember
        rw [derivesOperand.position_eq]
        exact .index derivesOperand isBracket derivesPlace isClosing
      case h_3 isDot =>
        refine Sound.of_suffix others ?_ suffix
        refine (sound_expect finish _ _ others).bind
          fun name afterName _ ⟨nameShape, isName⟩ => ?_
        refine (sound_readMember finish operand first name isDot isName afterName).bind
          fun inner middle _ ⟨derivesInner, noOperation⟩ => ?_
        refine (sound_readSuffixes finish inner middle).bind fun whole rest _ derives => ?_
        refine Sound.value (fun start derivesOperand _ => ?_) (List.suffix_refl _)
        subst nameShape
        exact derives start (derivesInner start derivesOperand) noOperation
      case h_4 => exact Sound.value (fun _ derives _ => derives) (List.suffix_refl _)
termination_by (tokens.length, 0)

theorem sound_readMember
    (finish : Token) (owner : Expr) (dot name : Token)
    (isDot : dot.kind = .dot) (isName : name.kind = .identifier) (tokens : List Token) :
    Sound tokens
      (fun whole rest =>
        (∀ start, DerivesExpr .chained start owner (dot :: name :: tokens) →
          DerivesExpr .chained start whole rest) ∧
        (startsWith .leftParen rest = true → ¬ NamesListOperation whole))
      (Expr.readMember finish owner name.text tokens) := by
  rw [Expr.readMember.eq_def]
  split
  case h_1 isAppend =>
    have isCalled := (listOperation?_eq_some isAppend).1 rfl
    refine (sound_expect finish _ _ tokens).bind
      fun opening inner shorter ⟨openingShape, isOpening⟩ => ?_
    refine (sound_readExpr finish inner).bind fun element closed _ derivesElement => ?_
    refine (sound_expect finish _ _ closed).bind
      fun closing rest _ ⟨closingShape, isClosing⟩ => ?_
    subst openingShape closingShape
    refine Sound.value ⟨fun start derivesOwner => ?_, fun _ isMember => by cases isMember⟩
      (List.suffix_refl _)
    rw [derivesOwner.position_eq]
    exact .append derivesOwner isDot isName isCalled isOpening derivesElement isClosing
  case h_2 isSize =>
    have isCalled := (listOperation?_eq_some isSize).2 rfl
    refine (sound_expect finish _ _ tokens).bind
      fun opening inner _ ⟨openingShape, isOpening⟩ => ?_
    refine (sound_expect finish _ _ inner).bind
      fun closing rest _ ⟨closingShape, isClosing⟩ => ?_
    subst openingShape closingShape
    refine Sound.value ⟨fun start derivesOwner => ?_, fun _ isMember => by cases isMember⟩
      (List.suffix_refl _)
    rw [derivesOwner.position_eq]
    exact .size derivesOwner isDot isName isCalled isOpening isClosing
  case h_3 noOperation =>
    refine Sound.value ⟨fun start derivesOwner => ?_, fun beforeParen isMember => ?_⟩
      (List.suffix_refl _)
    · rw [derivesOwner.position_eq]
      exact .member derivesOwner isDot isName
    · obtain ⟨notAppend, notSize⟩ := listOperation?_eq_none noOperation beforeParen
      generalize name.text = called at isMember notAppend notSize
      cases isMember with
      | append => exact notAppend rfl
      | size => exact notSize rfl
termination_by (tokens.length, 0)

theorem sound_readArguments
    (finish : Token) (tokens : List Token) :
    Sound tokens
      (fun arguments rest => ∃ closing, DerivesArguments tokens arguments (closing :: rest) ∧
        closing.kind = .rightParen)
      (Expr.readArguments finish tokens) := by
  rw [Expr.readArguments.eq_def]
  split
  case h_1 closing rest shorter accepted =>
    obtain ⟨shape, isClosing⟩ := accept_eq_some accepted
    dsimp only at shape isClosing
    exact Sound.value ⟨closing, shape ▸ .none, isClosing⟩ (shape ▸ List.suffix_cons _ _)
  case h_2 =>
    refine (sound_readItems finish tokens).bind fun items closed _ derives => ?_
    refine (sound_expect finish _ _ closed).bind
      fun closing rest _ ⟨closingShape, isClosing⟩ => ?_
    subst closingShape
    exact Sound.value ⟨closing, .some derives, isClosing⟩ (List.suffix_refl _)
termination_by (tokens.length, 18)

theorem sound_readItems
    (finish : Token) (tokens : List Token) :
    Sound tokens (DerivesItems tokens) (Expr.readItems finish tokens) := by
  rw [Expr.readItems.eq_def]
  refine (sound_readExpr finish tokens).bind fun head middle _ derivesHead => ?_
  refine (sound_readMoreExprs finish middle).bind fun tail rest _ derives => ?_
  exact Sound.value (derives tokens head derivesHead) (List.suffix_refl _)
termination_by (tokens.length, 17)

theorem sound_readMoreExprs
    (finish : Token) (tokens : List Token) :
    Sound tokens
      (fun items rest => ∀ start head, DerivesExpr .whole start head tokens →
        DerivesItems start (head :: items) rest)
      (Expr.readMore finish tokens) := by
  rw [Expr.readMore_eq]
  exact sound_more tokens .last .more (fun rest _ => sound_readExpr finish rest)
    fun others _ => sound_readMoreExprs finish others
termination_by (tokens.length, 0)

theorem sound_readPrimary
    (finish : Token) (tokens : List Token) :
    Sound tokens (DerivesExpr .primary tokens) (Expr.readPrimary finish tokens) := by
  rw [Expr.readPrimary.eq_def]
  match tokens with
  | [] => exact Sound.refuse _ _
  | first :: others =>
      have suffix : others <:+ first :: others := List.suffix_cons _ _
      dsimp only
      split
      case h_1 isInteger =>
        split
        case h_1 fault isFault =>
          exact Or.inr ⟨first, List.mem_cons_self, isInteger, fault, isFault⟩
        case h_2 value isValue => exact Sound.value (.integer isInteger isValue) suffix
      case h_2 isTrue => exact Sound.value (.true isTrue) suffix
      case h_3 isFalse => exact Sound.value (.false isFalse) suffix
      case h_4 isName => exact Sound.value (.name isName) suffix
      case h_5 isParen =>
        refine Sound.of_suffix others ?_ suffix
        refine (sound_readItems finish others).bind fun items closed _ derives => ?_
        refine (sound_expect finish _ _ closed).bind
          fun closing rest _ ⟨closingShape, isClosing⟩ => ?_
        subst closingShape
        exact Sound.value (.group isParen derives isClosing) (List.suffix_refl _)
      case h_6 => exact Sound.refuse _ _
termination_by (tokens.length, 1)

end

/-! ## Derivations are read

A reader stops where the grammar does if the token after the text cannot make it longer.
-/

/-- The tokens after which an operand of any kind goes on. -/
def startsSuffix : TokenKind → Bool
  | .leftParen | .leftBracket | .dot => true
  | _ => false

/-- The tokens with which a literal, a name or a group starts. -/
def startsPrimary : TokenKind → Bool
  | .integer | .trueWord | .falseWord | .identifier | .leftParen => true
  | _ => false

/-- The tokens with which an expression starts. -/
def startsExpression : TokenKind → Bool
  | .bang | .minus => true
  | kind => startsPrimary kind

namespace ExprForm

/-- Whether a token after an expression of a form makes it longer. -/
def continues : ExprForm → TokenKind → Bool
  | level precedence, kind =>
      [Precedence.disjunction, .conjunction, .equality, .comparison, .sum, .product].any
        (fun tighter => tighter.rank ≤ precedence.rank && (tighter.operator? kind).isSome) ||
      startsSuffix kind
  | signed, kind | chained, kind => startsSuffix kind
  | primary, _ => false

/-- No token of a kind makes an operand longer if it makes nothing of its level longer. -/
theorem continues_operand
    {precedence : Precedence} {kind : TokenKind}
    (stops : (level precedence).continues kind = false) :
    (operand precedence).continues kind = false := by
  cases precedence <;> cases kind <;> first | rfl | cases stops

theorem operator?_eq_none
    {precedence : Precedence} {kind : TokenKind}
    (stops : (level precedence).continues kind = false) :
    precedence.operator? kind = none := by
  cases precedence <;> cases kind <;> first | rfl | cases stops

theorem continues_operator
    {precedence : Precedence} {kind : TokenKind} {operator : BinaryOp}
    (isOperator : precedence.operator? kind = some operator) :
    (operand precedence).continues kind = false := by
  cases precedence <;> cases kind <;> first | rfl | cases isOperator

/-- No token at the head of a rest makes an expression of a form longer. -/
def Stops (form : ExprForm) : List Token → Prop
  | [] => True
  | first :: _ => form.continues first.kind = false

theorem Stops.operand
    {precedence : Precedence} {rest : List Token}
    (stops : (level precedence).Stops rest) :
    (operand precedence).Stops rest := by
  cases rest with
  | nil => trivial
  | cons first others => exact continues_operand stops

theorem Stops.beforeParen
    {form : ExprForm} {rest : List Token}
    (stops : form.Stops rest) (isChain : form.continues .leftParen = Bool.true) :
    startsWith .leftParen rest = Bool.false := by
  cases rest with
  | nil => rfl
  | cons first others =>
      cases isParen : startsWith .leftParen (first :: others) with
      | false => rfl
      | true =>
          have kind : first.kind = .leftParen := by simpa [startsWith] using isParen
          simp only [Stops, kind, isChain] at stops
          cases stops

/-- A token that ends every expression. -/
theorem stops_cons
    {form : ExprForm} {first : Token} (others : List Token) {kind : TokenKind}
    (isKind : first.kind = kind) (ends : whole.continues kind = Bool.false) :
    form.Stops (first :: others) := by
  subst isKind
  simp only [Stops]
  revert ends
  cases form with
  | level precedence => cases precedence <;> cases first.kind <;> decide
  | signed => cases first.kind <;> decide
  | chained => cases first.kind <;> decide
  | primary => exact fun _ => rfl

end ExprForm

theorem DerivesExpr.starts_primary
    {tokens rest : List Token} {expression : Expr} :
    DerivesExpr .primary tokens expression rest →
      ∃ first others, tokens = first :: others ∧ startsPrimary first.kind = Bool.true
  | .integer kind _ => ⟨_, _, rfl, by rw [kind]; rfl⟩
  | .true kind => ⟨_, _, rfl, by rw [kind]; rfl⟩
  | .false kind => ⟨_, _, rfl, by rw [kind]; rfl⟩
  | .name kind => ⟨_, _, rfl, by rw [kind]; rfl⟩
  | .group kind _ _ => ⟨_, _, rfl, by rw [kind]; rfl⟩

theorem DerivesExpr.starts_chained
    {tokens rest : List Token} {expression : Expr} :
    DerivesExpr .chained tokens expression rest →
      ∃ first others, tokens = first :: others ∧ startsPrimary first.kind = Bool.true
  | .primary derives => derives.starts_primary
  | .call derives .. => derives.starts_chained
  | .index derives .. => derives.starts_chained
  | .append derives .. => derives.starts_chained
  | .size derives .. => derives.starts_chained
  | .member derives .. => derives.starts_chained

theorem DerivesExpr.starts
    {form : ExprForm} {tokens rest : List Token} {expression : Expr}
    (derives : DerivesExpr form tokens expression rest) :
    ∃ first others, tokens = first :: others ∧ startsExpression first.kind = Bool.true := by
  have ofPrimary {kind : TokenKind} (starts : startsPrimary kind = Bool.true) :
      startsExpression kind = Bool.true := by
    cases kind <;> first | rfl | cases starts
  match derives with
  | .operand derives => exact derives.starts
  | .operation derives .. => exact derives.starts
  | .invert kind _ => exact ⟨_, _, rfl, by rw [kind]; rfl⟩
  | .negate kind _ => exact ⟨_, _, rfl, by rw [kind]; rfl⟩
  | .unsigned derives =>
      obtain ⟨first, others, shape, starts⟩ := derives.starts_chained
      exact ⟨first, others, shape, ofPrimary starts⟩
  | .primary derives => exact derives.starts
  | .call derives .. => exact derives.starts
  | .index derives .. => exact derives.starts
  | .append derives .. => exact derives.starts
  | .size derives .. => exact derives.starts
  | .member derives .. => exact derives.starts
  | .integer kind _ => exact ⟨_, _, rfl, by rw [kind]; rfl⟩
  | .true kind => exact ⟨_, _, rfl, by rw [kind]; rfl⟩
  | .false kind => exact ⟨_, _, rfl, by rw [kind]; rfl⟩
  | .name kind => exact ⟨_, _, rfl, by rw [kind]; rfl⟩
  | .group kind _ _ => exact ⟨_, _, rfl, by rw [kind]; rfl⟩

theorem DerivesItems.starts
    {tokens rest : List Token} {items : List Expr} :
    DerivesItems tokens items rest →
      ∃ first others, tokens = first :: others ∧ startsExpression first.kind = Bool.true
  | .last derives => derives.starts
  | .more derives .. => derives.starts

theorem readOperations_stops
    (finish : Token) {precedence : Precedence} (left : Expr) {rest : List Token}
    (stops : (ExprForm.level precedence).Stops rest) :
    Yields (Expr.readOperations finish precedence left rest) left rest := by
  rw [Expr.readOperations.eq_def]
  cases rest with
  | nil => rfl
  | cons first others =>
      dsimp only
      rw [ExprForm.operator?_eq_none stops]
      rfl

theorem readSuffixes_stops
    (finish : Token) (operand : Expr) {rest : List Token}
    (stops : ExprForm.chained.Stops rest) :
    Yields (Expr.readSuffixes finish operand rest) operand rest := by
  rw [Expr.readSuffixes.eq_def]
  cases rest with
  | nil => rfl
  | cons first others =>
      simp only [ExprForm.Stops, ExprForm.continues] at stops
      dsimp only
      split
      case h_1 kind => rw [kind] at stops; cases stops
      case h_2 kind => rw [kind] at stops; cases stops
      case h_3 kind => rw [kind] at stops; cases stops
      case h_4 => rfl

/-- The reader for a form reads some tokens as an expression and a rest. The readers for levels
and chains go on as long as they can, so they read the tokens as if they had started at the rest
with the expression as their left part. -/
def ReadsAs (finish : Token) :
    ExprForm → List Token → Expr → List Token → Prop
  | .level precedence, tokens, expression, rest =>
      (ExprForm.operand precedence).Stops rest →
        outcome (Expr.readLevel finish precedence tokens) =
          outcome (Expr.readOperations finish precedence expression rest)
  | .signed, tokens, expression, rest =>
      ExprForm.signed.Stops rest → Yields (Expr.readUnary finish tokens) expression rest
  | .chained, tokens, expression, rest =>
      (startsWith .leftParen rest = true → ¬ NamesListOperation expression) →
        outcome (Expr.readPostfix finish tokens) =
          outcome (Expr.readSuffixes finish expression rest)
  | .primary, tokens, expression, rest =>
      Yields (Expr.readPrimary finish tokens) expression rest

namespace ReadsAs

variable {finish : Token} {tokens rest : List Token} {expression : Expr}

theorem yields_level
    {precedence : Precedence}
    (reads : ReadsAs finish (.level precedence) tokens expression rest)
    (stops : (ExprForm.level precedence).Stops rest) :
    Yields (Expr.readLevel finish precedence tokens) expression rest :=
  (reads stops.operand).trans (readOperations_stops finish expression stops)

theorem yields_whole
    (reads : ReadsAs finish .whole tokens expression rest)
    (stops : ExprForm.whole.Stops rest) :
    Yields (Expr.read finish tokens) expression rest := by
  rw [Expr.read.eq_def]
  exact reads.yields_level stops

theorem yields_operand
    {precedence : Precedence}
    (reads : ReadsAs finish (.operand precedence) tokens expression rest)
    (stops : (ExprForm.operand precedence).Stops rest) :
    Yields (Expr.readOperand finish precedence tokens) expression rest := by
  rw [Expr.readOperand.eq_def]
  cases precedence with
  | disjunction => exact yields_level reads stops
  | conjunction => exact yields_level reads stops
  | equality => exact yields_level reads stops
  | comparison => exact yields_level reads stops
  | sum => exact yields_level reads stops
  | product => exact reads stops

theorem yields_chained
    (reads : ReadsAs finish .chained tokens expression rest)
    (stops : ExprForm.chained.Stops rest) :
    Yields (Expr.readPostfix finish tokens) expression rest := by
  have notBefore : startsWith .leftParen rest = false := stops.beforeParen rfl
  refine (reads fun before => ?_).trans (readSuffixes_stops finish expression stops)
  rw [notBefore] at before
  cases before

end ReadsAs

/-- The reader of unary operators leaves tokens that start otherwise to the reader of chains. -/
theorem readUnary_eq_readPostfix
    (finish : Token) {tokens rest : List Token} {expression : Expr}
    (derives : DerivesExpr .chained tokens expression rest) :
    Expr.readUnary finish tokens = Expr.readPostfix finish tokens := by
  obtain ⟨first, others, rfl, starts⟩ := derives.starts_chained
  rw [Expr.readUnary.eq_def]
  dsimp only
  split
  case h_1 kind => rw [kind] at starts; cases starts
  case h_2 kind => rw [kind] at starts; cases starts
  case h_3 => rfl

theorem listOperation?_append
    {opening : Token} (others : List Token) (isOpening : opening.kind = .leftParen) :
    Expr.listOperation? "append" (opening :: others) = some .append := by
  simp [Expr.listOperation?, startsWith, isOpening]

theorem listOperation?_size
    {opening : Token} (others : List Token) (isOpening : opening.kind = .leftParen) :
    Expr.listOperation? "size" (opening :: others) = some .size := by
  simp [Expr.listOperation?, startsWith, isOpening]

/-- Unless a parenthesis follows, or the name is not that of a list operation, a name after a dot
is a member. -/
theorem listOperation?_of_not_names
    {owner : Expr} {called : String} {position : Position} {rest : List Token}
    (noOperation : startsWith .leftParen rest = true →
      ¬ NamesListOperation (.member owner called position)) :
    Expr.listOperation? called rest = none := by
  simp only [Expr.listOperation?]
  by_cases before : startsWith .leftParen rest = true
  · have notAppend : called ≠ "append" := by
      rintro rfl
      exact noOperation before (.append owner position)
    have notSize : called ≠ "size" := by
      rintro rfl
      exact noOperation before (.size owner position)
    simp [notAppend, notSize]
  · simp [before]

theorem yields_readItems
    {finish : Token} {tokens middle rest : List Token} {head : Expr} {tail : List Expr}
    (headYields : Yields (Expr.read finish tokens) head middle)
    (tailYields : Yields (Expr.readMore finish middle) tail rest) :
    Yields (Expr.readItems finish tokens) (head :: tail) rest := by
  obtain ⟨_, headEquality⟩ := headYields.exists_eq
  obtain ⟨_, tailEquality⟩ := tailYields.exists_eq
  rw [Expr.readItems.eq_def]
  simp only [bind, Except.bind, headEquality, tailEquality]
  rfl

mutual

theorem readsAs_of_derivesExpr
    (finish : Token) {form : ExprForm} {tokens rest : List Token} {expression : Expr} :
    DerivesExpr form tokens expression rest → ReadsAs finish form tokens expression rest
  | .operand derives => by
      intro stops
      have yields := (readsAs_of_derivesExpr finish derives).yields_operand stops
      rw [Expr.readLevel.eq_def]
      obtain ⟨_, equality⟩ := yields.exists_eq
      simp only [bind, Except.bind, equality]
      exact outcome_widen _ _
  | .operation derivesLeft isOperator derivesRight => by
      intro stops
      have readsLeft := readsAs_of_derivesExpr finish derivesLeft
      have yieldsRight := (readsAs_of_derivesExpr finish derivesRight).yields_operand stops
      obtain ⟨_, equality⟩ := yieldsRight.exists_eq
      rw [readsLeft (ExprForm.continues_operator isOperator), Expr.readOperations.eq_def]
      simp only [isOperator, bind, Except.bind, equality, derivesLeft.position_eq]
      exact outcome_widen _ _
  | .unsigned derives => by
      intro stops
      rw [readUnary_eq_readPostfix finish derives]
      exact (readsAs_of_derivesExpr finish derives).yields_chained stops
  | .invert isBang derives => by
      intro stops
      obtain ⟨_, equality⟩ := (readsAs_of_derivesExpr finish derives stops).exists_eq
      rw [Expr.readUnary.eq_def]
      simp only [isBang, bind, Except.bind, equality]
      rfl
  | .negate isMinus derives => by
      intro stops
      obtain ⟨_, equality⟩ := (readsAs_of_derivesExpr finish derives stops).exists_eq
      rw [Expr.readUnary.eq_def]
      simp only [isMinus, bind, Except.bind, equality]
      rfl
  | .primary derives => by
      intro _
      obtain ⟨_, equality⟩ := Yields.exists_eq (readsAs_of_derivesExpr finish derives)
      rw [Expr.readPostfix.eq_def]
      simp only [bind, Except.bind, equality]
      exact outcome_widen _ _
  | .call derives noOperation isOpening derivesArguments isClosing => by
      intro _
      have reads := readsAs_of_derivesExpr finish derives
      obtain ⟨_, equality⟩ :=
        (yields_readArguments finish derivesArguments rfl isClosing).exists_eq
      rw [reads fun _ => noOperation, Expr.readSuffixes.eq_def]
      simp only [isOpening, bind, Except.bind, equality, derives.position_eq]
      exact outcome_widen _ _
  | .index derives isOpening derivesPlace isClosing => by
      intro _
      have reads := readsAs_of_derivesExpr finish derives
      have yieldsPlace := (readsAs_of_derivesExpr finish derivesPlace).yields_whole
        (ExprForm.stops_cons _ isClosing rfl)
      obtain ⟨_, equality⟩ := yieldsPlace.exists_eq
      rw [reads fun before => by simp [startsWith, isOpening] at before,
        Expr.readSuffixes.eq_def]
      simp only [isOpening, bind, Except.bind, equality, expectMark,
        expect_cons _ _ _ isClosing, derives.position_eq]
      exact outcome_widen _ _
  | .append derives isDot isName isCalled isOpening derivesElement isClosing => by
      intro _
      have reads := readsAs_of_derivesExpr finish derives
      have yieldsElement := (readsAs_of_derivesExpr finish derivesElement).yields_whole
        (ExprForm.stops_cons _ isClosing rfl)
      obtain ⟨_, equality⟩ := yieldsElement.exists_eq
      rw [reads fun before => by simp [startsWith, isDot] at before,
        Expr.readSuffixes.eq_def]
      simp only [isDot, bind, Except.bind, expectName, expect_cons _ _ _ isName,
        Expr.readMember.eq_def, isCalled, listOperation?_append _ isOpening, expectMark,
        expect_cons _ _ _ isOpening, equality, expect_cons _ _ _ isClosing,
        derives.position_eq, pure, Except.pure]
      exact outcome_widen _ _
  | .size derives isDot isName isCalled isOpening isClosing => by
      intro _
      have reads := readsAs_of_derivesExpr finish derives
      rw [reads fun before => by simp [startsWith, isDot] at before,
        Expr.readSuffixes.eq_def]
      simp only [isDot, bind, Except.bind, expectName, expect_cons _ _ _ isName,
        Expr.readMember.eq_def, isCalled, listOperation?_size _ isOpening, expectMark,
        expect_cons _ _ _ isOpening, expect_cons _ _ _ isClosing, derives.position_eq,
        pure, Except.pure]
      exact outcome_widen _ _
  | .member derives isDot isName => by
      intro noOperation
      have reads := readsAs_of_derivesExpr finish derives
      rw [reads fun before => by simp [startsWith, isDot] at before,
        Expr.readSuffixes.eq_def]
      simp only [isDot, bind, Except.bind, expectName, expect_cons _ _ _ isName,
        Expr.readMember.eq_def, listOperation?_of_not_names noOperation, derives.position_eq]
      exact outcome_widen _ _
  | .integer kind isValue => by
      simp only [ReadsAs]
      rw [Expr.readPrimary.eq_def]
      simp only [kind, isValue]
      rfl
  | .true kind => by
      simp only [ReadsAs]
      rw [Expr.readPrimary.eq_def]
      simp only [kind]
      rfl
  | .false kind => by
      simp only [ReadsAs]
      rw [Expr.readPrimary.eq_def]
      simp only [kind]
      rfl
  | .name kind => by
      simp only [ReadsAs]
      rw [Expr.readPrimary.eq_def]
      simp only [kind]
      rfl
  | .group kind derives isClosing => by
      obtain ⟨head, tail, middle, itemsShape, headYields, tailYields⟩ :=
        yields_items finish derives (ExprForm.stops_cons _ isClosing rfl)
          (startsWith_cons _ isClosing (by decide))
      obtain ⟨_, equality⟩ := (yields_readItems headYields tailYields).exists_eq
      simp only [ReadsAs, itemsShape]
      rw [Expr.readPrimary.eq_def]
      simp only [kind, bind, Except.bind, equality, expectMark, expect_cons _ _ _ isClosing]
      rfl

theorem yields_readArguments
    (finish : Token) {tokens closed rest : List Token} {closing : Token}
    {arguments : List Expr} :
    DerivesArguments tokens arguments closed → closed = closing :: rest →
      closing.kind = .rightParen → Yields (Expr.readArguments finish tokens) arguments rest
  | .none, shape, isClosing => by
      rw [Expr.readArguments.eq_def, shape, accept_cons _ isClosing]
      rfl
  | .some derives, shape, isClosing => by
      obtain ⟨head, tail, middle, itemsShape, headYields, tailYields⟩ :=
        yields_items finish derives (shape ▸ ExprForm.stops_cons _ isClosing rfl)
          (shape ▸ startsWith_cons _ isClosing (by decide))
      obtain ⟨_, equality⟩ := (yields_readItems headYields tailYields).exists_eq
      have notEmpty : accept .rightParen tokens = none := by
        obtain ⟨first, others, rfl, starts⟩ := derives.starts
        refine accept_eq_none_iff.mpr (startsWith_cons others rfl fun kind => ?_)
        rw [kind] at starts
        cases starts
      rw [Expr.readArguments.eq_def, notEmpty, itemsShape]
      simp only [bind, Except.bind, equality, shape, expectMark, expect_cons _ _ _ isClosing]
      rfl

theorem yields_items
    (finish : Token) {tokens rest : List Token} {items : List Expr} :
    DerivesItems tokens items rest → ExprForm.whole.Stops rest →
      startsWith .comma rest = false →
      ∃ head tail middle, items = head :: tail ∧
        Yields (Expr.read finish tokens) head middle ∧
        Yields (Expr.readMore finish middle) tail rest
  | .last derives, stops, noComma => by
      refine ⟨_, _, _, rfl, (readsAs_of_derivesExpr finish derives).yields_whole stops, ?_⟩
      rw [Expr.readMore_eq]
      exact yields_more_nil noComma
  | .more derives isComma derivesMore, stops, noComma => by
      have yields := (readsAs_of_derivesExpr finish derives).yields_whole
        (ExprForm.stops_cons _ isComma rfl)
      obtain ⟨head, tail, middle, rfl, headYields, tailYields⟩ :=
        yields_items finish derivesMore stops noComma
      refine ⟨_, _, _, rfl, yields, ?_⟩
      rw [Expr.readMore_eq]
      exact yields_more_cons isComma headYields tailYields

end

end StructLang.Grammar
