import StructLang.Proofs.Cursor.Visits
import StructLang.Proofs.Grammar.Reading

/-!
# Plans that follow readings

A plan is run over all tokens; a reading takes the tokens in front of the first end. A plan follows
a reading if its run has the outcome of the reading, moves the cursor as far as the reading takes
tokens, comes by no place behind the first end, and asks for no task again where it is under way.
Plans do so because their parts do, so there is one rule for each way of putting plans together.

- `Tape` : tokens, parted at the first end.
- `Task.Below` : what may be asked for while a task is under way.
- `Tape.Follows` : a plan follows a reading.
- `Follows.bind` : two plans one after the other follow two readings.
-/

namespace StructLang

/-- A failure that a reading of tokens can have: a fault of the grammar, or an integer among them
whose text has no value. -/
def ReadFailure.IsOf (tokens : List Token) : ReadFailure → Prop
  | grammar _ => True
  | numeral fault =>
      ∃ token ∈ tokens, token.kind = .integer ∧ Text.readNumeral token.text = .error fault
  | noTokens => False

theorem ReadFailure.IsOf.mono
    {tokens others : List Token} {failure : ReadFailure} (isOf : failure.IsOf tokens)
    (isSubset : tokens ⊆ others) : failure.IsOf others := by
  cases failure with
  | grammar => trivial
  | numeral fault =>
      obtain ⟨token, isThere, isInteger⟩ := isOf
      exact ⟨token, isSubset isThere, isInteger⟩
  | noTokens => exact isOf

end StructLang

namespace StructLang.Cursor

open Reader

/-! ## Tokens with an end -/

/-- Tokens, parted at the first one that marks an end. -/
structure Tape where
  front : List Token
  finish : Token
  beyond : List Token
  noEnd : ∀ token ∈ front, token.kind ≠ .finish
  isEnd : finish.kind = .finish

/-- A task may be asked for where some tokens are left, while another one is under way: fewer are
left than where that one started, or as many and the rank is lower. -/
def Task.Below (task : Task) (start : Nat) (asked : Task) (left : Nat) : Prop :=
  left < start ∨ left = start ∧ asked.rank < task.rank

theorem Task.Below.trans
    {task asked other : Task} {start middle left : Nat}
    (below : asked.Below middle other left) (isBelow : task.Below start asked middle) :
    task.Below start other left := by
  unfold Below at *
  omega

theorem Task.below_of_none
    {task : Task} {start left : Nat} :
    ∀ callee ∈ (none : Option Task), task.Below start callee left :=
  fun callee isAsked => absurd isAsked (Option.not_mem_none callee)

theorem Task.rank_lt
    (task : Task) : task.rank < 16 := by
  cases task with
  | level precedence => cases precedence <;> decide
  | _ => simp [rank]

theorem Task.height_mono
    (task : Task) {left more : Nat} (isMore : left ≤ more) :
    task.height left ≤ task.height more := by
  unfold height
  omega

/-- Tasks that are asked for while another one is under way need less depth. -/
theorem Task.Below.height_lt
    {task asked : Task} {start left : Nat} (isBelow : task.Below start asked left) :
    asked.height left < task.height start := by
  have isLow := asked.rank_lt
  unfold Below at isBelow
  unfold height
  omega

namespace Tape

variable {tape : Tape} {left rest : List Token}

/-- All the tokens. -/
def tokens (tape : Tape) : List Token :=
  tape.front ++ tape.finish :: tape.beyond

/-- Where the cursor stands if some tokens are left in front of the end. -/
def placeOf (tape : Tape) (left : List Token) : Nat :=
  tape.front.length - left.length

theorem placeOf_le
    (tape : Tape) (isRest : rest <:+ left) : tape.placeOf left ≤ tape.placeOf rest :=
  Nat.sub_le_sub_left isRest.length_le _

/-- Where the cursor stands is the next token of a reading. -/
theorem tokens_placeOf
    (isLeft : left <:+ tape.front) :
    tape.tokens[tape.placeOf left]? = some (next tape.finish left) := by
  obtain ⟨taken, isFront⟩ := isLeft
  have isPlace : tape.placeOf left = taken.length := by
    rw [placeOf, ← isFront, List.length_append, Nat.add_sub_cancel]
  rw [isPlace, tokens, ← isFront, List.append_assoc, List.getElem?_append_right (Nat.le_refl _),
    Nat.sub_self]
  cases left <;> rfl

theorem placeOf_cons
    {first : Token} {others : List Token} (isLeft : first :: others <:+ tape.front) :
    tape.placeOf others = tape.placeOf (first :: others) + 1 := by
  have isLength := isLeft.length_le
  rw [List.length_cons] at isLength
  rw [placeOf, placeOf, List.length_cons]
  omega

theorem tokenAt?_of_getElem?
    {tokens : List Token} {index : Nat} {token : Token} (isThere : tokens[index]? = some token) :
    tokenAt? tokens index = some token := by
  rw [tokenAt?, isThere]
  rfl

/-- A token is accepted if the tokens start with one of its kind. -/
theorem accept_cases
    (kind : TokenKind) (tokens : List Token) :
    accept kind tokens = none ∨
      ∃ first others, tokens = first :: others ∧ first.kind = kind := by
  cases tokens with
  | nil => exact Or.inl rfl
  | cons first others =>
      by_cases isKind : first.kind = kind
      · exact Or.inr ⟨first, others, rfl, isKind⟩
      · exact Or.inl (if_neg isKind)

/-! ## Plans and readings -/

variable {alpha beta : Type} {bound otherBound : Nat} {task : Task} {start : Nat}

/-- What a plan does from where some tokens are left, while a task is under way that started where a
number of them were left. -/
structure Traces (tape : Tape) (task : Task) (start : Nat) (left : List Token) (plan : Plan alpha)
    (reading : Reading alpha bound) : Prop where
  runs : ∀ depth, task.height start ≤ depth + 1 →
    plan.run tape.tokens (Task.run tape.tokens depth) (tape.placeOf left) =
      some (reading.map fun parsed => (parsed.value, tape.placeOf parsed.rest))
  keeps : ∀ parsed, reading = .ok parsed → parsed.rest <:+ left
  fails : ∀ failure, reading = .error failure → failure.IsOf tape.front
  visits : ∀ asked later, plan.Visits tape.tokens (tape.placeOf left) asked later →
    tape.placeOf left ≤ later ∧ later ≤ tape.front.length ∧
      ∀ callee ∈ asked, task.Below start callee (tape.front.length - later)

/-- At whichever depth a plan has an outcome, it is that of the reading. -/
theorem Traces.outcome_eq
    {plan : Plan alpha} {reading : Reading alpha bound} {depth : Nat} {outcome : Outcome alpha}
    (traces : tape.Traces task start left plan reading)
    (isDone : plan.run tape.tokens (Task.run tape.tokens depth) (tape.placeOf left) =
      some outcome) :
    reading.map (fun parsed => (parsed.value, tape.placeOf parsed.rest)) = outcome := by
  have isDoneToo := Plan.run_mono (Nat.le_max_left depth (task.height start)) isDone
  rw [traces.runs _ (Nat.le_succ_of_le (Nat.le_max_right depth _))] at isDoneToo
  exact Option.some.inj isDoneToo

/-- A plan follows a reading of the tokens that are left in front of the end. -/
def Follows (tape : Tape) (task : Task) (start : Nat) (left : List Token) (plan : Plan alpha)
    (reading : Reading alpha bound) : Prop :=
  left <:+ tape.front → tape.Traces task start left plan reading

namespace Follows

theorem value
    {found : alpha} {shorter : left.length < bound} :
    tape.Follows task start left (pure found)
      (.ok ⟨found, left, shorter⟩ : Reading alpha bound) := fun _ => {
  runs := fun _ _ => rfl
  keeps := by
    intro parsed isParsed
    cases isParsed
    exact List.suffix_rfl
  fails := by
    intro failure isFailure
    cases isFailure
  visits := by
    intro asked later visits
    change Plan.Visits _ (.give found) _ _ _ at visits
    cases visits with
    | here => exact ⟨Nat.le_refl _, Nat.sub_le _ _, Task.below_of_none⟩ }

theorem failure
    {failure : ReadFailure} (isOf : failure.IsOf tape.front) :
    tape.Follows task start left (.fail failure : Plan alpha)
      (.error failure : Reading alpha bound) := fun _ => {
  runs := fun _ _ => rfl
  keeps := nofun
  fails := by
    intro other isOther
    cases isOther
    exact isOf
  visits := by
    intro asked later visits
    cases visits with
    | here => exact ⟨Nat.le_refl _, Nat.sub_le _ _, Task.below_of_none⟩ }

theorem fault
    {fault : ReadFault} :
    tape.Follows task start left (Plan.refuse fault : Plan alpha)
      (.error (.grammar fault) : Reading alpha bound) :=
  .failure trivial

/-- The next token stands in front of the end. -/
theorem of_cons
    {first : Token} {others : List Token} {plan : Plan alpha} {reading : Reading alpha bound}
    (follows : first ∈ tape.front → tape.Follows task start (first :: others) plan reading) :
    tape.Follows task start (first :: others) plan reading :=
  fun isLeft => follows (isLeft.subset List.mem_cons_self) isLeft

/-- Two plans one after the other follow two readings if the first ones do, and the second ones do
after what the first ones gave. -/
theorem bind_of_eq
    {plan : Plan alpha} {next : alpha → Plan beta} {reading : Reading alpha bound}
    {readNext : Parsed alpha bound → Reading beta otherBound}
    (follows : tape.Follows task start left plan reading)
    (followsNext : ∀ found rest shorter, reading = .ok ⟨found, rest, shorter⟩ →
      tape.Follows task start rest (next found) (readNext ⟨found, rest, shorter⟩)) :
    tape.Follows task start left (plan >>= next) (reading >>= readNext) := by
  intro isLeft
  have traces := follows isLeft
  cases reading with
  | error failure =>
      refine ⟨fun depth isDeep => ?_, nofun, fun other isOther => ?_, fun asked later visits => ?_⟩
      · rw [Plan.run_bind, traces.runs depth isDeep]
        rfl
      · cases isOther
        exact traces.fails failure rfl
      · rcases Plan.visits_bind visits with isFirst | ⟨depth, found, middle, isDone, -⟩
        · exact traces.visits asked later isFirst
        · cases traces.outcome_eq isDone
  | ok parsed =>
      have isRest := traces.keeps parsed rfl
      have tracesNext := followsNext parsed.value parsed.rest parsed.rest_lt rfl
        (isRest.trans isLeft)
      refine ⟨fun depth isDeep => ?_,
        fun last isLast => (tracesNext.keeps last isLast).trans isRest,
        tracesNext.fails, fun asked later visits => ?_⟩
      · rw [Plan.run_bind, traces.runs depth isDeep]
        exact tracesNext.runs depth isDeep
      · rcases Plan.visits_bind visits with isFirst | ⟨depth, found, middle, isDone, isSecond⟩
        · exact traces.visits asked later isFirst
        · cases traces.outcome_eq isDone
          obtain ⟨isLater, isWithin, areBelow⟩ := tracesNext.visits asked later isSecond
          exact ⟨Nat.le_trans (tape.placeOf_le isRest) isLater, isWithin, areBelow⟩

/-- Two plans one after the other follow two readings if the first ones do, and the second ones do
after whatever the first ones may give. -/
theorem bind
    {plan : Plan alpha} {next : alpha → Plan beta} {reading : Reading alpha bound}
    {readNext : Parsed alpha bound → Reading beta otherBound}
    (follows : tape.Follows task start left plan reading)
    (followsNext : ∀ found rest shorter,
      tape.Follows task start rest (next found) (readNext ⟨found, rest, shorter⟩)) :
    tape.Follows task start left (plan >>= next) (reading >>= readNext) :=
  follows.bind_of_eq fun found rest shorter _ => followsNext found rest shorter

/-- A plan that ends with another one gives what that gives. -/
theorem last
    {plan : Plan alpha} {reading : Reading alpha bound}
    {readNext : Parsed alpha bound → Reading alpha otherBound}
    (follows : tape.Follows task start left plan reading)
    (isSame : ∀ found rest shorter,
      tape.Follows task start rest (pure found) (readNext ⟨found, rest, shorter⟩)) :
    tape.Follows task start left plan (reading >>= readNext) := by
  rw [← bind_pure plan]
  exact follows.bind isSame

/-! ## Single tokens -/

/-- A token that is looked at in front of the end, or at the end. -/
theorem peek
    {offset : Nat} {token : Token} {next : Token → Plan alpha} {reading : Reading alpha bound}
    (isThere : left <:+ tape.front → tape.tokens[tape.placeOf left + offset]? = some token)
    (isWithin : left <:+ tape.front → tape.placeOf left + offset ≤ tape.front.length)
    (follows : tape.Follows task start left (next token) reading) :
    tape.Follows task start left (.peek offset next) reading := by
  intro isLeft
  have traces := follows isLeft
  have isSeen := tokenAt?_of_getElem? (isThere isLeft)
  refine ⟨fun depth isDeep => ?_, traces.keeps, traces.fails, fun asked later visits => ?_⟩
  · rw [← traces.runs depth isDeep, Plan.run, isSeen]
  · cases visits with
    | here => exact ⟨Nat.le_refl _, Nat.sub_le _ _, Task.below_of_none⟩
    | looks => exact ⟨Nat.le_add_right _ _, isWithin isLeft, Task.below_of_none⟩
    | peek isThereToo visits =>
        obtain rfl := Option.some.inj (isSeen.symm.trans isThereToo)
        exact traces.visits asked later visits

theorem look
    {next : Token → Plan alpha} {reading : Reading alpha bound}
    (follows : tape.Follows task start left (next (Reader.next tape.finish left)) reading) :
    tape.Follows task start left (Plan.look >>= next) reading :=
  .peek tokens_placeOf (fun _ => Nat.sub_le _ _) follows

theorem lookFurther
    {first : Token} {others : List Token} {next : Token → Plan alpha}
    {reading : Reading alpha bound}
    (follows : tape.Follows task start (first :: others)
      (next (Reader.next tape.finish others)) reading) :
    tape.Follows task start (first :: others) (Plan.lookFurther >>= next) reading := by
  refine .peek (fun isLeft => ?_) (fun isLeft => ?_) follows
  · rw [← placeOf_cons isLeft]
    exact tokens_placeOf ((List.suffix_cons first others).trans isLeft)
  · rw [← placeOf_cons isLeft]
    exact Nat.sub_le _ _

theorem take
    {first : Token} {others : List Token} {next : Token → Plan alpha}
    {reading : Reading alpha bound}
    (follows : tape.Follows task start others (next first) reading) :
    tape.Follows task start (first :: others) (Plan.take >>= next) reading := by
  intro isLeft
  have traces := follows ((List.suffix_cons first others).trans isLeft)
  have isThere : tape.tokens[tape.placeOf (first :: others)]? = some first := tokens_placeOf isLeft
  have isBehind : behind first (tape.placeOf (first :: others)) = tape.placeOf others := by
    rw [behind, if_neg (tape.noEnd first (isLeft.subset List.mem_cons_self)), placeOf_cons isLeft]
  refine ⟨fun depth isDeep => ?_,
    fun parsed isParsed => (traces.keeps parsed isParsed).trans (List.suffix_cons _ _),
    traces.fails, fun asked later visits => ?_⟩
  · change Plan.run _ _ (.advance next) _ = _
    rw [← traces.runs depth isDeep, Plan.run, isThere, ← isBehind]
  · change Plan.Visits _ (.advance next) _ _ _ at visits
    cases visits with
    | here => exact ⟨Nat.le_refl _, Nat.sub_le _ _, Task.below_of_none⟩
    | advance isThereToo visits =>
        obtain rfl := Option.some.inj (isThere.symm.trans isThereToo)
        rw [isBehind] at visits
        obtain ⟨isLater, isWithin, areBelow⟩ := traces.visits asked later visits
        exact ⟨Nat.le_trans (tape.placeOf_le (List.suffix_cons _ _)) isLater, isWithin, areBelow⟩

/-- The end is of no kind that a plan accepts or expects. -/
theorem next_kind_iff
    {kind : TokenKind} (isAsked : kind ≠ .finish) :
    (next tape.finish left).kind = kind ↔ startsWith kind left = true := by
  cases left with
  | nil => simp [next, startsWith, tape.isEnd, isAsked.symm]
  | cons first others => simp [next, startsWith]

theorem next_kind_ne
    {kind : TokenKind} (isAsked : kind ≠ .finish) (isNone : accept kind left = none) :
    (next tape.finish left).kind ≠ kind := by
  rw [Ne, next_kind_iff isAsked, accept_eq_none_iff.mp isNone]
  exact Bool.false_ne_true

theorem accept_none
    {kind : TokenKind} {next : Option Token → Plan alpha} {reading : Reading alpha bound}
    (isAsked : kind ≠ .finish) (isNone : accept kind left = none)
    (follows : tape.Follows task start left (next none) reading) :
    tape.Follows task start left (Plan.accept kind >>= next) reading := by
  rw [Plan.accept, bind_assoc]
  refine look ?_
  rw [if_neg (next_kind_ne isAsked isNone)]
  exact follows

theorem accept_some
    {kind : TokenKind} {token : Token} {next : Option Token → Plan alpha}
    {reading : Reading alpha bound} (isKind : token.kind = kind)
    (follows : tape.Follows task start rest (next (some token)) reading) :
    tape.Follows task start (token :: rest) (Plan.accept kind >>= next) reading := by
  rw [Plan.accept, bind_assoc]
  refine look ?_
  rw [Reader.next, if_pos isKind, bind_assoc]
  exact take follows

theorem expect_cons
    {wanted : Wanted} {kind : TokenKind} {token : Token} {next : Token → Plan alpha}
    {reading : Reading alpha bound} (isKind : token.kind = kind)
    (follows : tape.Follows task start rest (next token) reading) :
    tape.Follows task start (token :: rest) (Plan.expect wanted kind >>= next) reading := by
  rw [Plan.expect, bind_assoc]
  refine look ?_
  rw [Reader.next, if_pos isKind]
  exact take follows

theorem expect
    {wanted : Wanted} {kind : TokenKind} (isAsked : kind ≠ .finish) (left : List Token) :
    tape.Follows task start left (Plan.expect wanted kind)
      (Reader.expect tape.finish wanted kind left) := by
  rw [← bind_pure (Plan.expect wanted kind), Reader.expect]
  rcases accept_cases kind left with isNone | ⟨token, rest, rfl, isKind⟩
  · rw [isNone, Plan.expect, bind_assoc]
    refine look ?_
    rw [if_neg (next_kind_ne isAsked isNone)]
    exact fault
  · rw [accept_cons rest isKind]
    exact expect_cons isKind value

theorem startsWithTwo
    {first second : TokenKind} {next : Bool → Plan alpha} {reading : Reading alpha bound}
    (isAsked : first ≠ .finish) (isAskedToo : second ≠ .finish)
    (follows : tape.Follows task start left
      (next (startsWith first left && startsWith second left.tail)) reading) :
    tape.Follows task start left (Plan.startsWithTwo first second >>= next) reading := by
  rw [Plan.startsWithTwo, bind_assoc]
  refine look ?_
  cases isFirst : startsWith first left with
  | false =>
      rw [isFirst, Bool.false_and] at follows
      rw [if_neg (by rw [next_kind_iff isAsked, isFirst]; exact Bool.false_ne_true)]
      exact follows
  | true =>
      rw [if_pos ((next_kind_iff isAsked).mpr isFirst), bind_assoc]
      cases left with
      | nil => cases isFirst
      | cons token others =>
          refine lookFurther ?_
          have isSecond : ((Reader.next tape.finish others).kind == second) =
              startsWith second others := by
            rw [Bool.eq_iff_iff, beq_iff_eq, next_kind_iff isAskedToo]
          rw [isSecond, pure_bind]
          rw [isFirst, Bool.true_and] at follows
          exact follows

/-! ## Repetitions -/

/-- Plans for further items follow the readers of further items, each after a comma. -/
theorem more
    {item : Plan alpha} {further : Plan (List alpha)}
    {one : (tokens : List Token) → Reading alpha tokens.length}
    {others : (tokens : List Token) → Reading (List alpha) (tokens.length + 1)}
    (followsItem : ∀ rest, rest.length < left.length →
      tape.Follows task start rest item (one rest))
    (followsFurther : ∀ rest, rest.length < left.length →
      tape.Follows task start rest further (others rest)) :
    tape.Follows task start left (Plan.more item further) (Reader.more one others left) := by
  rw [Plan.more, Reader.more]
  rcases accept_cases .comma left with isNone | ⟨comma, rest, rfl, isComma⟩
  · refine accept_none (by decide) isNone ?_
    rw [isNone]
    exact value
  · refine accept_some isComma ?_
    rw [accept_cons rest isComma]
    refine (followsItem rest (Nat.lt_succ_self _)).bind fun head middle isFewer => ?_
    refine (followsFurther middle (Nat.lt_succ_of_lt isFewer)).bind fun tail _ _ => ?_
    exact value

/-- Plans for items up to a closing brace follow the readers of such items. -/
theorem upToBrace
    {item : Plan alpha} {further : Plan (List alpha)}
    {one : (tokens : List Token) → Reading alpha tokens.length}
    {others : (tokens : List Token) → Reading (List alpha) (tokens.length + 1)}
    (followsItem : tape.Follows task start left item (one left))
    (followsFurther : ∀ rest, rest.length < left.length →
      tape.Follows task start rest further (others rest)) :
    tape.Follows task start left (Plan.upToBrace item further)
      (Reader.upToBrace one others left) := by
  rw [Plan.upToBrace]
  refine look ?_
  match left with
  | [] =>
      rw [Reader.next, if_pos (Or.inr tape.isEnd)]
      exact value
  | first :: others =>
      refine of_cons fun isThere => ?_
      rw [Reader.next, Reader.upToBrace_cons]
      by_cases isBrace : first.kind = .rightBrace
      · rw [if_pos (Or.inl isBrace), if_pos isBrace]
        exact value
      · rw [if_neg (not_or.mpr ⟨isBrace, tape.noEnd first isThere⟩), if_neg isBrace]
        refine followsItem.bind fun head rest isFewer => ?_
        refine (followsFurther rest isFewer).bind fun tail _ _ => ?_
        exact value

end Follows

end Tape

end StructLang.Cursor
