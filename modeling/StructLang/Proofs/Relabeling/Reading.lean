import StructLang.Proofs.Grammar.Reading
import StructLang.Proofs.Relabeling.Trees
import StructLang.Ty.Read

/-!
# Readings of relabeled tokens

Readers decide by the kinds of tokens alone. So a reading of relabeled tokens gives what a reading
of the tokens gives, relabeled, be it a value or a fault.
-/

namespace StructLang

open Reader

/-- A token with other labels: only identifiers are names. -/
def Token.relabel (relabeling : Relabeling) (token : Token) : Token :=
  ⟨token.kind, if token.kind = .identifier then relabeling.name token.text else token.text,
    relabeling.position token.position⟩

/-- A token that is a name, with other labels. -/
def Token.relabelName (relabeling : Relabeling) (token : Token) : Token :=
  ⟨token.kind, relabeling.name token.text, relabeling.position token.position⟩

/-- A fault with other labels. -/
def ReadFault.relabel (relabeling : Relabeling) : ReadFault → ReadFault
  | expected wanted found => expected wanted (found.relabel relabeling)
  | unexpected found => unexpected (found.relabel relabeling)
  | afterMain found => afterMain (found.relabel relabeling)
  | missingMain position => missingMain (relabeling.position position)
  | missingPart member part position =>
      missingPart (relabeling.name member) part (relabeling.position position)
  | plainValue position => plainValue (relabeling.position position)

/-- A failure with other labels. -/
def ReadFailure.relabel (relabeling : Relabeling) : ReadFailure → ReadFailure
  | grammar fault => grammar (fault.relabel relabeling)
  | numeral fault => numeral fault
  | noTokens => noTokens

variable {relabeling : Relabeling} {alpha beta : Type}
  {bound otherBound nextBound otherNextBound : Nat}

@[simp] theorem Token.kind_relabel
    (token : Token) : (token.relabel relabeling).kind = token.kind := rfl

@[simp] theorem Token.position_relabel
    (token : Token) :
    (token.relabel relabeling).position = relabeling.position token.position := rfl

theorem Token.relabel_of_name
    {token : Token} (isName : token.kind = .identifier) :
    token.relabel relabeling = token.relabelName relabeling := by
  rw [relabel, if_pos isName, relabelName]

theorem Token.text_relabel_of_name
    {token : Token} (isName : token.kind = .identifier) :
    (token.relabel relabeling).text = relabeling.name token.text :=
  if_pos isName

theorem Token.text_relabel_of_other
    {token : Token} (noName : token.kind ≠ .identifier) :
    (token.relabel relabeling).text = token.text :=
  if_neg noName

namespace Reader

/-! ## Readings that agree -/

/-- Two readings agree: the second one gives the value and the rest of the first one, or its
failure, with other labels. -/
def Agrees (relabeling : Relabeling) (change : alpha → alpha) :
    Reading alpha bound → Reading alpha otherBound → Prop
  | .ok parsed, .ok other =>
      other.value = change parsed.value ∧ other.rest = parsed.rest.map (Token.relabel relabeling)
  | .error failure, .error other => other = failure.relabel relabeling
  | _, _ => False

theorem Agrees.value
    {change : alpha → alpha} {found otherFound : alpha} {rest : List Token}
    {shorter : rest.length < bound}
    {shorterToo : (rest.map (Token.relabel relabeling)).length < otherBound}
    (isFound : otherFound = change found) :
    Agrees relabeling change (.ok ⟨found, rest, shorter⟩ : Reading alpha bound)
      (.ok ⟨otherFound, rest.map (Token.relabel relabeling), shorterToo⟩ :
        Reading alpha otherBound) :=
  ⟨isFound, rfl⟩

theorem Agrees.fault
    {change : alpha → alpha} {fault other : ReadFault}
    (isOther : other = fault.relabel relabeling) :
    Agrees relabeling change (.error (.grammar fault) : Reading alpha bound)
      (.error (.grammar other) : Reading alpha otherBound) :=
  congrArg ReadFailure.grammar isOther

/-- Readings that agree fail both, or both give a value. -/
theorem Agrees.cases
    {change : alpha → alpha} {first : Reading alpha bound} {other : Reading alpha otherBound}
    (agrees : Agrees relabeling change first other) :
    (∃ failure, first = .error failure ∧ other = .error (failure.relabel relabeling)) ∨
      ∃ found rest shorter shorterToo, first = .ok ⟨found, rest, shorter⟩ ∧
        other = .ok ⟨change found, rest.map (Token.relabel relabeling), shorterToo⟩ := by
  cases first with
  | error failure =>
      cases other with
      | error otherFailure => exact .inl ⟨failure, rfl, congrArg Except.error agrees⟩
      | ok otherParsed => exact agrees.elim
  | ok parsed =>
      cases other with
      | error otherFailure => exact agrees.elim
      | ok otherParsed =>
          obtain ⟨otherFound, otherRest, shorterToo⟩ := otherParsed
          obtain ⟨rfl, rfl⟩ := agrees
          exact .inr ⟨parsed.value, parsed.rest, parsed.rest_lt, shorterToo, rfl, rfl⟩

/-- Two pairs of readings one after the other agree if the first ones agree, and the second ones do
after whatever the first ones gave. -/
theorem Agrees.bind
    {change : alpha → alpha} {changeNext : beta → beta}
    {first : Reading alpha bound} {other : Reading alpha otherBound}
    {next : Parsed alpha bound → Reading beta nextBound}
    {otherNext : Parsed alpha otherBound → Reading beta otherNextBound}
    (agrees : Agrees relabeling change first other)
    (agreesNext : ∀ found rest shorter shorterToo,
      Agrees relabeling changeNext (next ⟨found, rest, shorter⟩)
        (otherNext ⟨change found, rest.map (Token.relabel relabeling), shorterToo⟩)) :
    Agrees relabeling changeNext (first >>= next) (other >>= otherNext) := by
  obtain ⟨failure, rfl, rfl⟩ | ⟨found, rest, shorter, shorterToo, rfl, rfl⟩ := agrees.cases
  · rfl
  · exact agreesNext found rest shorter shorterToo

/-- Readings that part at a condition agree if they do on either side of it. -/
theorem Agrees.ite
    {change : alpha → alpha} {condition otherCondition : Prop}
    [Decidable condition] [Decidable otherCondition]
    {first second : Reading alpha bound} {other otherSecond : Reading alpha otherBound}
    (same : otherCondition ↔ condition)
    (agrees : condition → Agrees relabeling change first other)
    (agreesSecond : ¬ condition → Agrees relabeling change second otherSecond) :
    Agrees relabeling change (if condition then first else second)
      (if otherCondition then other else otherSecond) := by
  by_cases holds : condition
  · rw [if_pos holds, if_pos (same.mpr holds)]
    exact agrees holds
  · rw [if_neg holds, if_neg (holds ∘ same.mp)]
    exact agreesSecond holds

/-! ## Single tokens -/

theorem next_relabel
    (finish : Token) (tokens : List Token) :
    next (finish.relabel relabeling) (tokens.map (Token.relabel relabeling)) =
      (next finish tokens).relabel relabeling := by
  cases tokens <;> rfl

@[simp] theorem startsWith_relabel
    (kind : TokenKind) (tokens : List Token) :
    startsWith kind (tokens.map (Token.relabel relabeling)) = startsWith kind tokens := by
  cases tokens <;> rfl

theorem agrees_refuse
    {change : alpha → alpha} {fault : Token → ReadFault} (finish : Token) (tokens : List Token)
    (isFault : ∀ token : Token,
      fault (token.relabel relabeling) = (fault token).relabel relabeling) :
    Agrees relabeling change (refuse finish fault tokens : Reading alpha bound)
      (refuse (finish.relabel relabeling) fault (tokens.map (Token.relabel relabeling)) :
        Reading alpha otherBound) := by
  refine Agrees.fault ?_
  rw [next_relabel, isFault]

/-- Where a token may stand, it is taken in both readings or in none. -/
theorem accept_relabel
    (kind : TokenKind) (tokens : List Token) :
    (accept kind tokens = none ∧
        accept kind (tokens.map (Token.relabel relabeling)) = none) ∨
      ∃ token rest shorter shorterToo, token.kind = kind ∧
        accept kind tokens = some ⟨token, rest, shorter⟩ ∧
        accept kind (tokens.map (Token.relabel relabeling)) =
          some ⟨token.relabel relabeling, rest.map (Token.relabel relabeling), shorterToo⟩ := by
  cases tokens with
  | nil => exact Or.inl ⟨rfl, rfl⟩
  | cons first others =>
      by_cases isKind : first.kind = kind
      · exact Or.inr ⟨first, others, Nat.lt_succ_self _, Nat.lt_succ_self _, isKind,
          accept_cons others isKind, accept_cons _ isKind⟩
      · exact Or.inl ⟨if_neg isKind, if_neg isKind⟩

/-- Two readings of further items agree if the readings of one item do. -/
theorem agrees_more
    {change : alpha → alpha} {changeAll : List alpha → List alpha}
    {one otherOne : (tokens : List Token) → Reading alpha tokens.length}
    {further otherFurther : (tokens : List Token) → Reading (List alpha) (tokens.length + 1)}
    (tokens : List Token) (nil : changeAll [] = [])
    (cons : ∀ head tail, changeAll (head :: tail) = change head :: changeAll tail)
    (agreesOne : ∀ rest, rest.length < tokens.length →
      Agrees relabeling change (one rest) (otherOne (rest.map (Token.relabel relabeling))))
    (agreesFurther : ∀ others, others.length < tokens.length →
      Agrees relabeling changeAll (further others)
        (otherFurther (others.map (Token.relabel relabeling)))) :
    Agrees relabeling changeAll (more one further tokens)
      (more otherOne otherFurther (tokens.map (Token.relabel relabeling))) := by
  rw [more, more]
  rcases accept_relabel .comma tokens with ⟨isNone, isNoneToo⟩ | accepted
  · rw [isNone, isNoneToo]
    exact Agrees.value nil.symm
  · obtain ⟨_, rest, shorter, _, -, isTaken, isTakenToo⟩ := accepted
    rw [isTaken, isTakenToo]
    refine (agreesOne rest shorter).bind fun head others isFewer _ => ?_
    refine (agreesFurther others (Nat.lt_trans isFewer shorter)).bind fun tail _ _ _ => ?_
    exact Agrees.value (cons head tail).symm

/-- Two readings up to a closing brace agree if the readings of one item do. -/
theorem agrees_upToBrace
    {change : alpha → alpha} {changeAll : List alpha → List alpha}
    {one otherOne : (tokens : List Token) → Reading alpha tokens.length}
    {further otherFurther : (tokens : List Token) → Reading (List alpha) (tokens.length + 1)}
    (tokens : List Token) (nil : changeAll [] = [])
    (cons : ∀ head tail, changeAll (head :: tail) = change head :: changeAll tail)
    (agreesOne :
      Agrees relabeling change (one tokens) (otherOne (tokens.map (Token.relabel relabeling))))
    (agreesFurther : ∀ rest, rest.length < tokens.length →
      Agrees relabeling changeAll (further rest)
        (otherFurther (rest.map (Token.relabel relabeling)))) :
    Agrees relabeling changeAll (upToBrace one further tokens)
      (upToBrace otherOne otherFurther (tokens.map (Token.relabel relabeling))) := by
  cases tokens with
  | nil => exact Agrees.value nil.symm
  | cons first others =>
      rw [List.map_cons, upToBrace_cons, upToBrace_cons]
      refine Agrees.ite Iff.rfl (fun _ => Agrees.value nil.symm) fun _ => ?_
      refine agreesOne.bind fun head rest isFewer _ => ?_
      refine (agreesFurther rest isFewer).bind fun tail _ _ _ => ?_
      exact Agrees.value (cons head tail).symm

theorem agrees_expect
    (finish : Token) (wanted : Wanted) (kind : TokenKind) (tokens : List Token) :
    Agrees relabeling (Token.relabel relabeling) (expect finish wanted kind tokens)
      (expect (finish.relabel relabeling) wanted kind
        (tokens.map (Token.relabel relabeling))) := by
  rw [expect, expect]
  rcases accept_relabel kind tokens with ⟨isNone, isNoneToo⟩ | accepted
  · rw [isNone, isNoneToo]
    exact agrees_refuse finish tokens fun _ => rfl
  · obtain ⟨token, rest, shorter, shorterToo, -, isTaken, isTakenToo⟩ := accepted
    rw [isTaken, isTakenToo]
    exact Agrees.value rfl

/-- A token that is taken for a name is an identifier. -/
theorem agrees_expectName
    (finish : Token) (thing : NamedThing) (tokens : List Token) :
    Agrees relabeling (Token.relabelName relabeling) (expectName finish thing tokens)
      (expectName (finish.relabel relabeling) thing
        (tokens.map (Token.relabel relabeling))) := by
  rw [expectName, expectName, expect, expect]
  rcases accept_relabel .identifier tokens with ⟨isNone, isNoneToo⟩ | accepted
  · rw [isNone, isNoneToo]
    exact agrees_refuse finish tokens fun _ => rfl
  · obtain ⟨token, rest, shorter, shorterToo, isName, isTaken, isTakenToo⟩ := accepted
    rw [isTaken, isTakenToo]
    exact Agrees.value (Token.relabel_of_name isName)

end Reader

/-! ## Types -/

namespace Ty

theorem withoutParameters?_relabel
    (tokens : List Token) :
    (withoutParameters? tokens = none ∧
        withoutParameters? (tokens.map (Token.relabel relabeling)) = none) ∨
      ∃ token rest shorter shorterToo,
        withoutParameters? tokens = some ⟨token, rest, shorter⟩ ∧
        withoutParameters? (tokens.map (Token.relabel relabeling)) =
          some ⟨token.relabel relabeling, rest.map (Token.relabel relabeling), shorterToo⟩ := by
  match tokens with
  | [] | [_] => exact Or.inl ⟨rfl, rfl⟩
  | first :: second :: rest =>
      by_cases isPair : first.kind = .voidWord ∧ second.kind = .arrow
      · exact Or.inr ⟨first, second :: rest, _, _, if_pos isPair, if_pos isPair⟩
      · exact Or.inl ⟨if_neg isPair, if_neg isPair⟩

mutual

theorem agrees_read
    (finish : Token) (tokens : List Token) :
    Agrees relabeling (rename relabeling.name) (read finish tokens)
      (read (finish.relabel relabeling) (tokens.map (Token.relabel relabeling))) := by
  match tokens with
  | [] =>
      rw [List.map_nil, read.eq_def, read.eq_def]
      exact agrees_refuse finish [] fun _ => rfl
  | first :: others =>
      rw [List.map_cons, read.eq_def, read.eq_def]
      dsimp only [Token.kind_relabel]
      split
      case h_1 | h_2 | h_3 => exact Agrees.value rfl
      case h_4 isName =>
        rw [Token.text_relabel_of_name isName]
        exact Agrees.value rfl
      case h_5 =>
        refine (agrees_expect finish _ _ others).bind fun _ opened _ _ => ?_
        refine (agrees_read finish opened).bind fun element closed _ _ => ?_
        refine (agrees_expect finish _ _ closed).bind fun _ _ _ _ => ?_
        exact Agrees.value rfl
      case h_6 =>
        refine (agrees_expect finish _ _ others).bind fun _ opened _ _ => ?_
        refine (agrees_readParameters finish opened).bind fun parameters beforeArrow _ _ => ?_
        refine (agrees_expect finish _ _ beforeArrow).bind fun _ afterArrow _ _ => ?_
        refine (agrees_read finish afterArrow).bind fun result closed _ _ => ?_
        refine (agrees_expect finish _ _ closed).bind fun _ _ _ _ => ?_
        exact Agrees.value rfl
      case h_7 => exact agrees_refuse finish (first :: others) fun _ => rfl
termination_by (tokens.length, 0)

theorem agrees_readParameters
    (finish : Token) (tokens : List Token) :
    Agrees relabeling (renameAll relabeling.name) (readParameters finish tokens)
      (readParameters (finish.relabel relabeling) (tokens.map (Token.relabel relabeling))) := by
  rw [readParameters.eq_def, readParameters.eq_def]
  rcases withoutParameters?_relabel tokens with ⟨isNone, isNoneToo⟩ | isLone
  · rw [isNone, isNoneToo]
    refine (agrees_read finish tokens).bind fun head others _ _ => ?_
    refine (agrees_readMore finish others).bind fun tail _ _ _ => ?_
    exact Agrees.value rfl
  · obtain ⟨_, rest, _, _, isTaken, isTakenToo⟩ := isLone
    rw [isTaken, isTakenToo]
    exact Agrees.value rfl
termination_by (tokens.length, 1)

theorem agrees_readMore
    (finish : Token) (tokens : List Token) :
    Agrees relabeling (renameAll relabeling.name) (readMore finish tokens)
      (readMore (finish.relabel relabeling) (tokens.map (Token.relabel relabeling))) := by
  rw [readMore_eq, readMore_eq]
  exact agrees_more tokens rfl (fun _ _ => rfl) (fun rest _ => agrees_read finish rest)
    fun others _ => agrees_readMore finish others
termination_by (tokens.length, 0)

end

end Ty

end StructLang
