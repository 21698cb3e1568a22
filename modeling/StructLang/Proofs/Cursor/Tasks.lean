import StructLang.Proofs.Cursor.Following

/-!
# Readings of tasks

Each task has a reading, which takes tokens in front of the end. The plan of a task follows its
reading if the plans of all tasks that it may ask for follow theirs.

- `Task.read` : the reading of a task.
- `Tape.FollowsBelow` : the plans of the tasks that may be asked for follow their readings.
-/

namespace StructLang.Cursor

open Reader

/-- How many tokens are left at most when a task is done, and one more. -/
def Task.bound (task : Task) (left : List Token) : Nat :=
  bif task.takes then left.length else left.length + 1

/-- A reading of tokens that start with a certain word. -/
def startingWith {alpha : Type} {bound : Nat}
    (finish : Token) (word : TokenKind) (left : List Token) (reading : Reading alpha bound) :
    Reading alpha bound :=
  if startsWith word left then reading
  else refuse finish (.expected (.token word)) left

theorem startingWith_cons
    {alpha : Type} {bound : Nat} {finish first : Token} {word : TokenKind} {others : List Token}
    {reading : Reading alpha bound} (isWord : first.kind = word) :
    startingWith finish word (first :: others) reading = reading := by
  rw [startingWith, startsWith, isWord, beq_self_eq_true, if_pos rfl]

/-- A reading behind a certain word, of what stands at its place. -/
def behindWord {alpha : Type}
    (finish : Token) (word : TokenKind) (left : List Token)
    (read : Position → (rest : List Token) → Reading alpha rest.length) :
    Reading alpha left.length := do
  let ⟨token, rest, afterWord⟩ ← expectMark finish word left
  let ⟨found, rest, afterFound⟩ ← read token.position rest
  return ⟨found, rest, length_lt_of_two afterWord afterFound⟩

theorem behindWord_cons
    {alpha : Type} {finish first : Token} {word : TokenKind} {others : List Token}
    {read : Position → (rest : List Token) → Reading alpha rest.length}
    (isWord : first.kind = word) :
    behindWord finish word (first :: others) read =
      read first.position others >>= fun parsed =>
        .ok ⟨parsed.value, parsed.rest, Nat.lt_succ_of_lt parsed.rest_lt⟩ := by
  rw [behindWord, expectMark, expect_cons _ _ _ isWord]
  rfl

/-- The reading of a whole program, which leaves no tokens. -/
def wholly (reading : Except ReadFailure Program) (left : List Token) :
    Reading Program (left.length + 1) :=
  reading.map fun program => ⟨program, [], Nat.succ_pos _⟩

theorem rest_eq_nil_of_wholly
    {reading : Except ReadFailure Program} {left : List Token}
    {parsed : Parsed Program (left.length + 1)} (isRead : wholly reading left = .ok parsed) :
    parsed.rest = [] := by
  cases reading with
  | error failure => cases isRead
  | ok program =>
      cases isRead
      rfl

/-- The reading of a task. -/
def Task.read (finish : Token) :
    (task : Task) → (left : List Token) → Reading task.Result (task.bound left)
  | .type, left => Ty.read finish left
  | .functionPointer, left => startingWith finish .fptrWord left (Ty.read finish left)
  | .moreTypes, left => Ty.readMore finish left
  | .parameters, left => readParameters finish left
  | .parameter, left => readParameter finish left
  | .moreParameters, left => readMoreParameters finish left
  | .expression, left => Expr.read finish left
  | .level precedence, left => Expr.readLevel finish precedence left
  | .operations precedence operand, left => Expr.readOperations finish precedence operand left
  | .unary, left => Expr.readUnary finish left
  | .suffixed, left => Expr.readPostfix finish left
  | .suffixes operand, left => Expr.readSuffixes finish operand left
  | .afterDot owner called, left => Expr.readMember finish owner called left
  | .moreExpressions, left => Expr.readMore finish left
  | .primary, left => Expr.readPrimary finish left
  | .block, left => Stmt.readBlock finish left
  | .statements, left => Stmt.readAll finish left
  | .statement, left => Stmt.read finish left
  | .declaration, left => Stmt.readDeclaration finish left
  | .moreNames thing, left => readMoreNames finish thing left
  | .branch, left => startingWith finish .ifWord left (Stmt.read finish left)
  | .loop, left => startingWith finish .whileWord left (Stmt.read finish left)
  | .display, left => startingWith finish .displayWord left (Stmt.read finish left)
  | .giveBack, left => startingWith finish .returnWord left (Stmt.read finish left)
  | .simple, left => Stmt.readSimple finish left
  | .struct, left => behindWord finish .structWord left (readStruct finish)
  | .members, left => readMembers finish left
  | .member, left => readMember finish left
  | .accessor fieldType name position, left => readAccessor finish fieldType name position left
  | .accessorBlocks blocks, left => readAccessorBlocks finish blocks left
  | .function, left => behindWord finish .funcWord left (readFunction finish)
  | .main, left => behindWord finish .mainWord left (readMain finish)
  | .declarations declared, left => wholly (Program.readDeclarations finish declared left) left
  | .program, left => wholly (Program.read finish left) left

namespace Tape

variable {tape : Tape} {left : List Token} {task : Task} {start : Nat}

namespace Follows

variable {alpha : Type} {bound : Nat}

/-- What is read behind a certain word, if it stands there. -/
theorem startingWith
    {word : TokenKind} {next : Token → Plan alpha} {reading : Reading alpha bound}
    (isAsked : word ≠ .finish)
    (follows : ∀ first others, left = first :: others → first.kind = word →
      tape.Follows task start others (next first) reading) :
    tape.Follows task start left (Plan.expectMark word >>= next)
      (Cursor.startingWith tape.finish word left reading) := by
  rcases accept_cases word left with isNone | ⟨first, others, isCons, isWord⟩
  · rw [Cursor.startingWith, accept_eq_none_iff.mp isNone, if_neg Bool.false_ne_true,
      Plan.expectMark, Plan.expect, bind_assoc]
    refine .look ?_
    rw [if_neg (next_kind_ne isAsked isNone)]
    exact .fault
  · subst isCons
    rw [startingWith_cons isWord]
    exact .expect_cons isWord (follows first others rfl isWord)

theorem of_startingWith
    {word : TokenKind} {first : Token} {others : List Token} {plan : Plan alpha}
    {reading : Reading alpha bound}
    (follows : tape.Follows task start (first :: others) plan
      (Cursor.startingWith tape.finish word (first :: others) reading))
    (isWord : first.kind = word) :
    tape.Follows task start (first :: others) plan reading := by
  rwa [startingWith_cons isWord] at follows

end Follows

/-- The plan of a task follows its reading. -/
def FollowsTask (tape : Tape) (task : Task) (left : List Token) : Prop :=
  tape.Follows task left.length left task.plan (task.read tape.finish left)

/-- The plans of all tasks that may be asked for while another one is under way follow their
readings. -/
def FollowsBelow (tape : Tape) (task : Task) (start : Nat) : Prop :=
  ∀ asked left, task.Below start asked left.length → tape.FollowsTask asked left

theorem FollowsTask.run_eq
    (follows : tape.FollowsTask task left) (isLeft : left <:+ tape.front) {depth : Nat}
    (isDeep : task.height left.length ≤ depth) :
    task.run tape.tokens depth (tape.placeOf left) =
      some ((task.read tape.finish left).map fun parsed =>
        (parsed.value, tape.placeOf parsed.rest)) := by
  cases depth with
  | zero => cases isDeep
  | succ depth => exact (follows isLeft).runs depth isDeep

/-- At whichever depth a task is done, the cursor stands where its reading leaves the tokens. -/
theorem FollowsTask.exists_parsed
    {depth after : Nat} {found : task.Result} (follows : tape.FollowsTask task left)
    (isLeft : left <:+ tape.front)
    (isDone : task.run tape.tokens depth (tape.placeOf left) = some (.ok (found, after))) :
    ∃ parsed, task.read tape.finish left = .ok parsed ∧ tape.placeOf parsed.rest = after := by
  cases depth with
  | zero => cases isDone
  | succ depth =>
      have isSame := (follows isLeft).outcome_eq isDone
      cases isRead : task.read tape.finish left with
      | error failure =>
          rw [isRead] at isSame
          cases isSame
      | ok parsed =>
          rw [isRead] at isSame
          cases isSame
          exact ⟨parsed, rfl, rfl⟩

/-- A task that may be asked for follows its reading, and so does what only asks for it. -/
theorem FollowsBelow.ask
    (below : tape.FollowsBelow task start) (asked : Task)
    (isBelow : task.Below start asked left.length) :
    tape.Follows task start left (Plan.ask asked) (asked.read tape.finish left) := by
  intro isLeft
  have follows := below asked left isBelow
  have traces := follows isLeft
  have isShallow := isBelow.height_lt
  have isWithin := Nat.sub_le tape.front.length left.length
  refine ⟨fun depth isDeep => ?_, traces.keeps, traces.fails, fun other later visits => ?_⟩
  · rw [Plan.ask, Plan.run, follows.run_eq isLeft (by omega)]
    cases asked.read tape.finish left <;> rfl
  change Plan.Visits _ (.call asked .give) _ _ _ at visits
  cases visits with
  | here => exact ⟨Nat.le_refl _, isWithin, Task.below_of_none⟩
  | asks =>
      refine ⟨Nat.le_refl _, isWithin, fun callee isAsked => ?_⟩
      obtain rfl := Option.some.inj isAsked
      rwa [placeOf, Nat.sub_sub_self isLeft.length_le]
  | inside visits =>
      obtain ⟨isLater, isWithin, areBelow⟩ := traces.visits other later visits
      exact ⟨isLater, isWithin, fun callee isAsked => (areBelow callee isAsked).trans isBelow⟩
  | after isDone visits =>
      obtain ⟨parsed, isRead, rfl⟩ := follows.exists_parsed isLeft isDone
      have isLater := tape.placeOf_le (traces.keeps parsed isRead)
      cases visits with
      | here => exact ⟨isLater, Nat.sub_le _ _, Task.below_of_none⟩

end Tape

end StructLang.Cursor
