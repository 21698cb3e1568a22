import StructLang.Proofs.Cursor.Programs
import StructLang.Proofs.Grammar.Programs

/-!
# What bounds the work of a cursor

In tokens with an end, the work of a cursor is bounded by the first one. A task that starts in front
of it, or there, is done or fails for what the tokens are; the cursor never comes behind it; and
whatever is asked for is asked for at a later place, or at the same one and with a lower rank.

- `Task.IsBounded` : what bounds a task from a place.
- `HasEnd.isBounded` : every task is bounded from every place up to the first end.
- `HasEnd.parse_eq` : the cursor reads what `Program.ofTokens` reads.
-/

namespace StructLang.Cursor

open Reader

variable {tokens : List Token}

/-! ## The first end -/

/-- One of the tokens marks an end. -/
def HasEnd (tokens : List Token) : Prop :=
  ∃ token ∈ tokens, token.kind = .finish

/-- The index of the first token that marks an end. -/
def firstEnd (tokens : List Token) : Nat :=
  tokens.findIdx (·.kind == .finish)

theorem HasEnd.append
    (hasEnd : HasEnd tokens) (further : List Token) : HasEnd (tokens ++ further) := by
  obtain ⟨token, isThere, isEnd⟩ := hasEnd
  exact ⟨token, List.mem_append_left _ isThere, isEnd⟩

/-- Tokens with an end are parted at the first one. -/
theorem HasEnd.exists_tape
    (hasEnd : HasEnd tokens) : ∃ tape : Tape, tape.tokens = tokens := by
  induction tokens with
  | nil =>
      obtain ⟨token, isThere, -⟩ := hasEnd
      cases isThere
  | cons first others inductionHypothesis =>
      by_cases isEnd : first.kind = .finish
      · exact ⟨⟨[], first, others, nofun, isEnd⟩, rfl⟩
      · obtain ⟨token, isThere, isEndToo⟩ := hasEnd
        rcases List.mem_cons.mp isThere with rfl | isFurther
        · exact absurd isEndToo isEnd
        obtain ⟨tape, isTokens⟩ := inductionHypothesis ⟨token, isFurther, isEndToo⟩
        refine ⟨⟨first :: tape.front, tape.finish, tape.beyond,
          List.forall_mem_cons.mpr ⟨isEnd, tape.noEnd⟩, tape.isEnd⟩, ?_⟩
        rw [← isTokens]
        rfl

theorem Tape.firstEnd_tokens
    (tape : Tape) : firstEnd tape.tokens = tape.front.length := by
  have noEnd : tape.front.findIdx (·.kind == .finish) = tape.front.length :=
    List.findIdx_eq_length_of_false fun token isThere => by
      simpa using tape.noEnd token isThere
  rw [firstEnd, Tape.tokens, List.findIdx_append, noEnd, if_neg (Nat.lt_irrefl _)]
  simp [List.findIdx_cons, tape.isEnd]

/-! ## Bounded tasks -/

/-- What bounds a task that starts at a place in tokens. -/
structure Task.IsBounded (tokens : List Token) (task : Task) (place : Nat) : Prop where
  /-- It is done, or fails for what the tokens are, at every depth that is enough for the tokens up
  to the first end. -/
  ends : ∃ outcome,
    (∀ depth, task.height (firstEnd tokens - place) ≤ depth →
      task.run tokens depth place = some outcome) ∧
    ∀ failure, outcome = .error failure → failure.IsOf tokens
  /-- When it is done the cursor stands behind the place, unless the task may take no token. -/
  advances : ∀ depth found after, task.run tokens depth place = some (.ok (found, after)) →
    place ≤ after ∧ (task.takes → place < after)
  /-- It looks and moves only between the place and the first end. -/
  stays : ∀ asked later, task.plan.Visits tokens place asked later →
    place ≤ later ∧ later ≤ firstEnd tokens
  /-- What it asks for, and what is asked for in turn, starts later or has a lower rank. -/
  descends : ∀ asked later, task.plan.Visits tokens place (some asked) later →
    place < later ∨ place = later ∧ asked.rank < task.rank

theorem Tape.isBounded
    (tape : Tape) (task : Task) {place : Nat} (isFront : place ≤ tape.front.length) :
    task.IsBounded tape.tokens place := by
  obtain ⟨left, isLeft, isPlace⟩ : ∃ left, left <:+ tape.front ∧ tape.placeOf left = place := by
    refine ⟨tape.front.drop place, List.drop_suffix _ _, ?_⟩
    rw [placeOf, List.length_drop, Nat.sub_sub_self isFront]
  have follows := tape.followsTask task left
  have traces := follows isLeft
  have isLength := isLeft.length_le
  have isUpToEnd : firstEnd tape.tokens - place = left.length := by
    rw [tape.firstEnd_tokens, ← isPlace, placeOf, Nat.sub_sub_self isLength]
  subst isPlace
  refine ⟨⟨_, fun depth isDeep => follows.run_eq isLeft (isUpToEnd ▸ isDeep),
    fun failure isFailure => ?_⟩, fun depth found after isDone => ?_,
    fun asked later visits => ?_, fun asked later visits => ?_⟩
  · cases isRead : task.read tape.finish left with
    | ok parsed =>
        rw [isRead] at isFailure
        cases isFailure
    | error other =>
        rw [isRead] at isFailure
        cases isFailure
        exact ReadFailure.IsOf.mono (traces.fails failure isRead)
          fun _ => List.mem_append_left _
  · obtain ⟨parsed, isRead, rfl⟩ := follows.exists_parsed isLeft isDone
    refine ⟨tape.placeOf_le (traces.keeps parsed isRead), fun isTaking => ?_⟩
    have isShorter := parsed.rest_lt
    simp only [Task.bound, isTaking, cond_true] at isShorter
    unfold placeOf
    omega
  · obtain ⟨isLater, isWithin, -⟩ := traces.visits asked later visits
    exact ⟨isLater, tape.firstEnd_tokens ▸ isWithin⟩
  · obtain ⟨isLater, isWithin, areBelow⟩ := traces.visits (some asked) later visits
    have isBelow := areBelow asked rfl
    unfold Task.Below at isBelow
    unfold placeOf at *
    omega

theorem HasEnd.isBounded
    (hasEnd : HasEnd tokens) (task : Task) {place : Nat} (isFront : place ≤ firstEnd tokens) :
    task.IsBounded tokens place := by
  obtain ⟨tape, rfl⟩ := hasEnd.exists_tape
  exact tape.isBounded task (tape.firstEnd_tokens ▸ isFront)

/-! ## Programs -/

theorem Tape.parse_eq
    (tape : Tape) : parse tape.tokens = some (Program.read tape.finish tape.front) := by
  have isStart : tape.placeOf tape.front = 0 := Nat.sub_self _
  have isPart : tape.front.length ≤ tape.tokens.length :=
    (List.prefix_append tape.front (tape.finish :: tape.beyond)).length_le
  have isRun := (tape.followsTask .program tape.front).run_eq List.suffix_rfl
    (Task.program.height_mono isPart)
  rw [isStart] at isRun
  rw [parse, isRun]
  change some (Except.map Prod.fst (Except.map _ (wholly (Program.read _ _) _))) = _
  cases Program.read tape.finish tape.front <;> rfl

/-- In tokens with an end the cursor reads what is read from the tokens in front of it. -/
theorem HasEnd.parse_eq
    (hasEnd : HasEnd tokens) : parse tokens = some (Program.ofTokens tokens) := by
  obtain ⟨tape, rfl⟩ := hasEnd.exists_tape
  rw [tape.parse_eq, Tape.tokens, Grammar.ofTokens_append_cons tape.noEnd tape.isEnd]

end StructLang.Cursor
