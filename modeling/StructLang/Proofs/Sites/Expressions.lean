import StructLang.Expr.Read
import StructLang.Proofs.Grammar.Reading
import StructLang.Ty.Read

/-!
# The places of what is read in expressions

Readers make up no places: every node and every fault stands where a token does, and a node that
starts with another one stands where that one does. So whatever holds of the places of all tokens,
the one that marks the end included, holds of the places of all that is read from them. There is
one such theorem for each reader; these are those for types and expressions.

- `Reader.KeepsTo` : what is read and left, or the fault, keeps to certain places.
- `Reader.KeepsTo.bind` : so do readings one after the other.
-/

namespace StructLang

open Reader

variable {alpha beta : Type} {bound nextBound : Nat} {within : Position → Prop}
  {isWithin : alpha → Prop} {isWithinToo : beta → Prop} {finish : Token} {tokens rest : List Token}

/-- Something holds of the places of tokens. -/
abbrev Token.AllWithin (within : Position → Prop) (tokens : List Token) : Prop :=
  ∀ token ∈ tokens, within token.position

/-- A failure of readers keeps to places of which something holds: a fault stands at one of them,
and there is always a token to point at. -/
def ReadFailure.KeepsTo (within : Position → Prop) : ReadFailure → Prop
  | grammar fault => within fault.position
  | numeral _ => True
  | noTokens => False

namespace Reader

/-- A reading keeps to places of which something holds: those of what it gives and of the tokens
that it leaves, or those of its failure. -/
def KeepsTo (within : Position → Prop) (isWithin : alpha → Prop) : Reading alpha bound → Prop
  | .ok parsed => isWithin parsed.value ∧ Token.AllWithin within parsed.rest
  | .error failure => failure.KeepsTo within

theorem KeepsTo.value
    {found : alpha} {shorter : rest.length < bound} (isFound : isWithin found)
    (inRest : Token.AllWithin within rest) :
    KeepsTo within isWithin (.ok ⟨found, rest, shorter⟩ : Reading alpha bound) :=
  ⟨isFound, inRest⟩

/-- Of two readings one after the other, the second one starts with what the first one gave and
left. -/
theorem KeepsTo.bind
    {first : Reading alpha bound} {next : Parsed alpha bound → Reading beta nextBound}
    (keeps : KeepsTo within isWithin first)
    (keepsNext : ∀ found rest shorter, isWithin found → Token.AllWithin within rest →
      KeepsTo within isWithinToo (next ⟨found, rest, shorter⟩)) :
    KeepsTo within isWithinToo (first >>= next) := by
  cases first with
  | ok parsed => exact keepsNext parsed.value parsed.rest parsed.rest_lt keeps.1 keeps.2
  | error => exact keeps

/-! ## Single tokens -/

theorem within_next
    (atFinish : within finish.position) (inTokens : Token.AllWithin within tokens) :
    within (next finish tokens).position := by
  cases tokens with
  | nil => exact atFinish
  | cons first others => exact inTokens first List.mem_cons_self

theorem keepsTo_refuse
    {fault : Token → ReadFault} (isAt : ∀ token, (fault token).position = token.position)
    (atFinish : within finish.position) (inTokens : Token.AllWithin within tokens) :
    KeepsTo within isWithin (refuse finish fault tokens : Reading alpha bound) := by
  rw [refuse, KeepsTo, ReadFailure.KeepsTo, isAt]
  exact within_next atFinish inTokens

theorem within_accept
    {kind : TokenKind} {parsed : Parsed Token tokens.length}
    (accepted : accept kind tokens = some parsed) (inTokens : Token.AllWithin within tokens) :
    within parsed.value.position ∧ Token.AllWithin within parsed.rest := by
  rw [(accept_eq_some accepted).1] at inTokens
  exact List.forall_mem_cons.mp inTokens

theorem keepsTo_expect
    (wanted : Wanted) (kind : TokenKind) (atFinish : within finish.position)
    (inTokens : Token.AllWithin within tokens) :
    KeepsTo within (fun token => within token.position) (expect finish wanted kind tokens) := by
  rw [expect]
  split
  case h_1 taken accepted => exact within_accept accepted inTokens
  case h_2 => exact keepsTo_refuse (fun _ => rfl) atFinish inTokens

/-- Readers of further items keep to places if the reader of one item does. -/
theorem keepsTo_more
    {one : (tokens : List Token) → Reading alpha tokens.length}
    {further : (tokens : List Token) → Reading (List alpha) (tokens.length + 1)}
    {isWithinAll : List alpha → Prop} (inTokens : Token.AllWithin within tokens)
    (nil : isWithinAll [])
    (cons : ∀ {head tail}, isWithin head → isWithinAll tail → isWithinAll (head :: tail))
    (keepsOne : ∀ rest, rest.length < tokens.length → Token.AllWithin within rest →
      KeepsTo within isWithin (one rest))
    (keepsFurther : ∀ others, others.length < tokens.length → Token.AllWithin within others →
      KeepsTo within isWithinAll (further others)) :
    KeepsTo within isWithinAll (more one further tokens) := by
  rw [more]
  split
  case h_1 => exact .value nil inTokens
  case h_2 comma opened shorter accepted =>
    have inOpened : Token.AllWithin within opened := (within_accept accepted inTokens).2
    refine (keepsOne opened shorter inOpened).bind fun head others isFewer ofHead inOthers => ?_
    refine (keepsFurther others (Nat.lt_trans isFewer shorter) inOthers).bind
      fun tail _ _ ofTail inRest => ?_
    exact .value (cons ofHead ofTail) inRest

/-- Readers up to a closing brace keep to places if the reader of one item does. -/
theorem keepsTo_upToBrace
    {one : (tokens : List Token) → Reading alpha tokens.length}
    {further : (tokens : List Token) → Reading (List alpha) (tokens.length + 1)}
    {isWithinAll : List alpha → Prop} (inTokens : Token.AllWithin within tokens)
    (nil : isWithinAll [])
    (cons : ∀ {head tail}, isWithin head → isWithinAll tail → isWithinAll (head :: tail))
    (keepsOne : KeepsTo within isWithin (one tokens))
    (keepsFurther : ∀ rest, rest.length < tokens.length → Token.AllWithin within rest →
      KeepsTo within isWithinAll (further rest)) :
    KeepsTo within isWithinAll (upToBrace one further tokens) := by
  cases tokens with
  | nil => exact .value nil inTokens
  | cons first others =>
      rw [upToBrace_cons]
      split
      · exact .value nil inTokens
      · refine keepsOne.bind fun head rest isFewer ofHead inRest => ?_
        refine (keepsFurther rest isFewer inRest).bind fun tail _ _ ofTail inEnd => ?_
        exact .value (cons ofHead ofTail) inEnd

end Reader

/-! ## Types -/

namespace Ty

theorem within_withoutParameters?
    {parsed : Parsed Token tokens.length} (isLone : withoutParameters? tokens = some parsed)
    (inTokens : Token.AllWithin within tokens) : Token.AllWithin within parsed.rest := by
  match tokens with
  | [] | [_] => cases isLone
  | first :: second :: others =>
      rw [withoutParameters?] at isLone
      split at isLone
      · cases isLone
        exact (List.forall_mem_cons.mp inTokens).2
      · cases isLone

mutual

theorem keepsTo_read
    (atFinish : within finish.position) (tokens : List Token)
    (inTokens : Token.AllWithin within tokens) :
    KeepsTo within (fun _ => True) (read finish tokens) := by
  match tokens with
  | [] =>
      rw [read.eq_def]
      exact keepsTo_refuse (fun _ => rfl) atFinish inTokens
  | first :: others =>
      have inOthers := (List.forall_mem_cons.mp inTokens).2
      rw [read.eq_def]
      dsimp only
      split
      case h_1 | h_2 | h_3 | h_4 => exact .value trivial inOthers
      case h_5 =>
        refine (keepsTo_expect _ _ atFinish inOthers).bind fun _ opened _ _ inOpened => ?_
        refine (keepsTo_read atFinish opened inOpened).bind fun _ closed _ _ inClosed => ?_
        refine (keepsTo_expect _ _ atFinish inClosed).bind fun _ _ _ _ inRest => ?_
        exact .value trivial inRest
      case h_6 =>
        refine (keepsTo_expect _ _ atFinish inOthers).bind fun _ opened _ _ inOpened => ?_
        refine (keepsTo_readParameters atFinish opened inOpened).bind
          fun _ beforeArrow _ _ inBefore => ?_
        refine (keepsTo_expect _ _ atFinish inBefore).bind fun _ afterArrow _ _ inAfter => ?_
        refine (keepsTo_read atFinish afterArrow inAfter).bind fun _ closed _ _ inClosed => ?_
        refine (keepsTo_expect _ _ atFinish inClosed).bind fun _ _ _ _ inRest => ?_
        exact .value trivial inRest
      case h_7 => exact keepsTo_refuse (fun _ => rfl) atFinish inTokens
termination_by (tokens.length, 0)

theorem keepsTo_readParameters
    (atFinish : within finish.position) (tokens : List Token)
    (inTokens : Token.AllWithin within tokens) :
    KeepsTo within (fun _ => True) (readParameters finish tokens) := by
  rw [readParameters.eq_def]
  split
  case h_1 isLone => exact .value trivial (within_withoutParameters? isLone inTokens)
  case h_2 =>
    refine (keepsTo_read atFinish tokens inTokens).bind fun _ others _ _ inOthers => ?_
    refine (keepsTo_readMore atFinish others inOthers).bind fun _ _ _ _ inRest => ?_
    exact .value trivial inRest
termination_by (tokens.length, 1)

theorem keepsTo_readMore
    (atFinish : within finish.position) (tokens : List Token)
    (inTokens : Token.AllWithin within tokens) :
    KeepsTo within (fun _ => True) (readMore finish tokens) := by
  rw [readMore_eq]
  exact keepsTo_more inTokens trivial (fun _ _ => trivial)
    (fun rest _ inRest => keepsTo_read atFinish rest inRest)
    fun others _ inOthers => keepsTo_readMore atFinish others inOthers
termination_by (tokens.length, 0)

end

end Ty

/-! ## Expressions -/

namespace Expr

/-- Something holds of the places of an expression and of all its nodes. -/
def StandsWithin (within : Position → Prop) (expression : Expr) : Prop :=
  within expression.position ∧ ∀ address, ∀ node ∈ expression.nodes address, within node.position

/-- Something holds of the places of all nodes of expressions. -/
def AllStandWithin (within : Position → Prop) (expressions : List Expr) : Prop :=
  ∀ address index, ∀ node ∈ nodesOf address index expressions, within node.position

theorem AllStandWithin.nil : AllStandWithin within [] :=
  fun _ _ => List.forall_mem_nil _

theorem AllStandWithin.cons
    {head : Expr} {tail : List Expr} (ofHead : head.StandsWithin within)
    (ofTail : AllStandWithin within tail) : AllStandWithin within (head :: tail) :=
  fun _ _ => List.forall_mem_append.mpr ⟨ofHead.2 _, ofTail _ _⟩

namespace StandsWithin

variable {first second : Expr} {items : List Expr} {position : Position}

theorem binary
    (ofFirst : first.StandsWithin within) (operator : Operator)
    (ofSecond : second.StandsWithin within) :
    (Expr.binary first operator second first.position).StandsWithin within :=
  ⟨ofFirst.1, fun _ => List.forall_mem_cons.mpr
    ⟨ofFirst.1, List.forall_mem_append.mpr ⟨ofFirst.2 _, ofSecond.2 _⟩⟩⟩

theorem index
    (ofFirst : first.StandsWithin within) (ofSecond : second.StandsWithin within) :
    (Expr.index first second first.position).StandsWithin within :=
  ⟨ofFirst.1, fun _ => List.forall_mem_cons.mpr
    ⟨ofFirst.1, List.forall_mem_append.mpr ⟨ofFirst.2 _, ofSecond.2 _⟩⟩⟩

theorem append
    (ofFirst : first.StandsWithin within) (ofSecond : second.StandsWithin within) :
    (Expr.append first second first.position).StandsWithin within :=
  ⟨ofFirst.1, fun _ => List.forall_mem_cons.mpr
    ⟨ofFirst.1, List.forall_mem_append.mpr ⟨ofFirst.2 _, ofSecond.2 _⟩⟩⟩

theorem size
    (ofFirst : first.StandsWithin within) :
    (Expr.size first first.position).StandsWithin within :=
  ⟨ofFirst.1, fun _ => List.forall_mem_cons.mpr ⟨ofFirst.1, ofFirst.2 _⟩⟩

theorem member
    (ofFirst : first.StandsWithin within) (called : String) :
    (Expr.member first called first.position).StandsWithin within :=
  ⟨ofFirst.1, fun _ => List.forall_mem_cons.mpr ⟨ofFirst.1, ofFirst.2 _⟩⟩

theorem call
    (ofFirst : first.StandsWithin within) (ofItems : AllStandWithin within items) :
    (Expr.call first items first.position).StandsWithin within :=
  ⟨ofFirst.1, fun _ => List.forall_mem_cons.mpr
    ⟨ofFirst.1, List.forall_mem_append.mpr ⟨ofFirst.2 _, ofItems _ _⟩⟩⟩

theorem unary
    (isThere : within position) (operator : Operator) (ofFirst : first.StandsWithin within) :
    (Expr.unary operator first position).StandsWithin within :=
  ⟨isThere, fun _ => List.forall_mem_cons.mpr ⟨isThere, ofFirst.2 _⟩⟩

theorem group
    (isThere : within position) (ofItems : AllStandWithin within items) :
    (Expr.group items position).StandsWithin within :=
  ⟨isThere, fun _ => List.forall_mem_cons.mpr ⟨isThere, ofItems _ _⟩⟩

end StandsWithin

mutual

theorem keepsTo_read
    (atFinish : within finish.position) (tokens : List Token)
    (inTokens : Token.AllWithin within tokens) :
    KeepsTo within (StandsWithin within) (read finish tokens) := by
  rw [read.eq_def]
  exact keepsTo_readLevel atFinish .disjunction tokens inTokens
termination_by (tokens.length, 16)

theorem keepsTo_readLevel
    (atFinish : within finish.position) (level : Precedence) (tokens : List Token)
    (inTokens : Token.AllWithin within tokens) :
    KeepsTo within (StandsWithin within) (readLevel finish level tokens) := by
  rw [readLevel.eq_def]
  refine (keepsTo_readOperand atFinish level tokens inTokens).bind
    fun left others _ ofLeft inOthers => ?_
  refine (keepsTo_readOperations atFinish level left ofLeft others inOthers).bind
    fun whole _ _ ofWhole inRest => ?_
  exact .value ofWhole inRest
termination_by (tokens.length, 2 * level.rank + 5)

theorem keepsTo_readOperand
    (atFinish : within finish.position) (level : Precedence) (tokens : List Token)
    (inTokens : Token.AllWithin within tokens) :
    KeepsTo within (StandsWithin within) (readOperand finish level tokens) := by
  rw [readOperand.eq_def]
  cases level with
  | disjunction => exact keepsTo_readLevel atFinish .conjunction tokens inTokens
  | conjunction => exact keepsTo_readLevel atFinish .equality tokens inTokens
  | equality => exact keepsTo_readLevel atFinish .comparison tokens inTokens
  | comparison => exact keepsTo_readLevel atFinish .sum tokens inTokens
  | sum => exact keepsTo_readLevel atFinish .product tokens inTokens
  | product => exact keepsTo_readUnary atFinish tokens inTokens
termination_by (tokens.length, 2 * level.rank + 4)

theorem keepsTo_readOperations
    (atFinish : within finish.position) (level : Precedence) (left : Expr)
    (ofLeft : left.StandsWithin within) (tokens : List Token)
    (inTokens : Token.AllWithin within tokens) :
    KeepsTo within (StandsWithin within) (readOperations finish level left tokens) := by
  match tokens with
  | [] =>
      rw [readOperations.eq_def]
      exact .value ofLeft inTokens
  | first :: others =>
      have inOthers := (List.forall_mem_cons.mp inTokens).2
      rw [readOperations.eq_def]
      dsimp only
      split
      case h_1 => exact .value ofLeft inTokens
      case h_2 operator _ =>
        refine (keepsTo_readOperand atFinish level others inOthers).bind
          fun right rest _ ofRight inRest => ?_
        refine (keepsTo_readOperations atFinish level _ (ofLeft.binary _ ofRight) rest
          inRest).bind fun whole _ _ ofWhole inEnd => ?_
        exact .value ofWhole inEnd
termination_by (tokens.length, 0)

theorem keepsTo_readUnary
    (atFinish : within finish.position) (tokens : List Token)
    (inTokens : Token.AllWithin within tokens) :
    KeepsTo within (StandsWithin within) (readUnary finish tokens) := by
  match tokens with
  | [] =>
      rw [readUnary.eq_def]
      exact keepsTo_readPostfix atFinish [] inTokens
  | first :: others =>
      obtain ⟨isThere, inOthers⟩ := List.forall_mem_cons.mp inTokens
      rw [readUnary.eq_def]
      dsimp only
      split
      case h_1 | h_2 =>
        refine (keepsTo_readUnary atFinish others inOthers).bind
          fun operand _ _ ofOperand inRest => ?_
        exact .value (.unary isThere _ ofOperand) inRest
      case h_3 => exact keepsTo_readPostfix atFinish (first :: others) inTokens
termination_by (tokens.length, 3)

theorem keepsTo_readPostfix
    (atFinish : within finish.position) (tokens : List Token)
    (inTokens : Token.AllWithin within tokens) :
    KeepsTo within (StandsWithin within) (readPostfix finish tokens) := by
  rw [readPostfix.eq_def]
  refine (keepsTo_readPrimary atFinish tokens inTokens).bind
    fun operand others _ ofOperand inOthers => ?_
  refine (keepsTo_readSuffixes atFinish operand ofOperand others inOthers).bind
    fun whole _ _ ofWhole inRest => ?_
  exact .value ofWhole inRest
termination_by (tokens.length, 2)

theorem keepsTo_readSuffixes
    (atFinish : within finish.position) (operand : Expr)
    (ofOperand : operand.StandsWithin within) (tokens : List Token)
    (inTokens : Token.AllWithin within tokens) :
    KeepsTo within (StandsWithin within) (readSuffixes finish operand tokens) := by
  match tokens with
  | [] =>
      rw [readSuffixes.eq_def]
      exact .value ofOperand inTokens
  | first :: others =>
      have inOthers := (List.forall_mem_cons.mp inTokens).2
      rw [readSuffixes.eq_def]
      dsimp only
      split
      case h_1 =>
        refine (keepsTo_readArguments atFinish others inOthers).bind
          fun arguments rest _ ofArguments inRest => ?_
        refine (keepsTo_readSuffixes atFinish _ (ofOperand.call ofArguments) rest inRest).bind
          fun whole _ _ ofWhole inEnd => ?_
        exact .value ofWhole inEnd
      case h_2 =>
        refine (keepsTo_read atFinish others inOthers).bind
          fun place closed _ ofPlace inClosed => ?_
        refine (keepsTo_expect _ _ atFinish inClosed).bind fun _ rest _ _ inRest => ?_
        refine (keepsTo_readSuffixes atFinish _ (ofOperand.index ofPlace) rest inRest).bind
          fun whole _ _ ofWhole inEnd => ?_
        exact .value ofWhole inEnd
      case h_3 =>
        refine (keepsTo_expect _ _ atFinish inOthers).bind fun called named _ _ inNamed => ?_
        refine (keepsTo_readMember atFinish operand ofOperand called.text named inNamed).bind
          fun whole rest _ ofWhole inRest => ?_
        refine (keepsTo_readSuffixes atFinish whole ofWhole rest inRest).bind
          fun whole _ _ ofWhole inEnd => ?_
        exact .value ofWhole inEnd
      case h_4 => exact .value ofOperand inTokens
termination_by (tokens.length, 0)

theorem keepsTo_readMember
    (atFinish : within finish.position) (owner : Expr) (ofOwner : owner.StandsWithin within)
    (called : String) (tokens : List Token) (inTokens : Token.AllWithin within tokens) :
    KeepsTo within (StandsWithin within) (readMember finish owner called tokens) := by
  rw [readMember.eq_def]
  split
  case h_1 =>
    refine (keepsTo_expect _ _ atFinish inTokens).bind fun _ opened _ _ inOpened => ?_
    refine (keepsTo_read atFinish opened inOpened).bind
      fun element closed _ ofElement inClosed => ?_
    refine (keepsTo_expect _ _ atFinish inClosed).bind fun _ _ _ _ inRest => ?_
    exact .value (ofOwner.append ofElement) inRest
  case h_2 =>
    refine (keepsTo_expect _ _ atFinish inTokens).bind fun _ opened _ _ inOpened => ?_
    refine (keepsTo_expect _ _ atFinish inOpened).bind fun _ _ _ _ inRest => ?_
    exact .value ofOwner.size inRest
  case h_3 => exact .value (ofOwner.member called) inTokens
termination_by (tokens.length, 0)

theorem keepsTo_readArguments
    (atFinish : within finish.position) (tokens : List Token)
    (inTokens : Token.AllWithin within tokens) :
    KeepsTo within (AllStandWithin within) (readArguments finish tokens) := by
  rw [readArguments.eq_def]
  split
  case h_1 accepted => exact .value .nil (within_accept accepted inTokens).2
  case h_2 =>
    refine (keepsTo_readItems atFinish tokens inTokens).bind
      fun arguments closed _ ofArguments inClosed => ?_
    refine (keepsTo_expect _ _ atFinish inClosed).bind fun _ _ _ _ inRest => ?_
    exact .value ofArguments inRest
termination_by (tokens.length, 18)

theorem keepsTo_readItems
    (atFinish : within finish.position) (tokens : List Token)
    (inTokens : Token.AllWithin within tokens) :
    KeepsTo within (AllStandWithin within) (readItems finish tokens) := by
  rw [readItems.eq_def]
  refine (keepsTo_read atFinish tokens inTokens).bind fun head others _ ofHead inOthers => ?_
  refine (keepsTo_readMore atFinish others inOthers).bind fun tail _ _ ofTail inRest => ?_
  exact .value (.cons ofHead ofTail) inRest
termination_by (tokens.length, 17)

theorem keepsTo_readMore
    (atFinish : within finish.position) (tokens : List Token)
    (inTokens : Token.AllWithin within tokens) :
    KeepsTo within (AllStandWithin within) (readMore finish tokens) := by
  rw [readMore_eq]
  exact keepsTo_more inTokens .nil .cons (fun rest _ inRest => keepsTo_read atFinish rest inRest)
    fun others _ inOthers => keepsTo_readMore atFinish others inOthers
termination_by (tokens.length, 0)

theorem keepsTo_readPrimary
    (atFinish : within finish.position) (tokens : List Token)
    (inTokens : Token.AllWithin within tokens) :
    KeepsTo within (StandsWithin within) (readPrimary finish tokens) := by
  match tokens with
  | [] =>
      rw [readPrimary.eq_def]
      exact keepsTo_refuse (fun _ => rfl) atFinish inTokens
  | first :: others =>
      obtain ⟨isThere, inOthers⟩ := List.forall_mem_cons.mp inTokens
      rw [readPrimary.eq_def]
      dsimp only
      split
      case h_1 =>
        split
        · trivial
        · exact .value ⟨isThere, fun _ => List.forall_mem_singleton.mpr isThere⟩ inOthers
      case h_2 | h_3 | h_4 =>
        exact .value ⟨isThere, fun _ => List.forall_mem_singleton.mpr isThere⟩ inOthers
      case h_5 =>
        refine (keepsTo_readItems atFinish others inOthers).bind
          fun items closed _ ofItems inClosed => ?_
        refine (keepsTo_expect _ _ atFinish inClosed).bind fun _ _ _ _ inRest => ?_
        exact .value (.group isThere ofItems) inRest
      case h_6 => exact keepsTo_refuse (fun _ => rfl) atFinish inTokens
termination_by (tokens.length, 1)

end

end Expr

end StructLang
