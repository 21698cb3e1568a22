import StructLang.Proofs.Cursor.Tasks

/-!
# Plans for expressions
-/

namespace StructLang.Cursor.Tape

open Reader

variable {tape : Tape} {left : List Token} {task : Task} {start : Nat}

/-! ## Binary operators -/

theorem followsTask_expression
    (below : tape.FollowsBelow .expression left.length) : tape.FollowsTask .expression left := by
  change tape.Follows _ _ _ (Plan.ask (.level .disjunction)) (Expr.read _ _)
  rw [Expr.read.eq_def]
  exact below.ask (.level .disjunction) (.inr ⟨rfl, by decide⟩)

/-- An operand of the operators of a level, in a task that may ask for it where fewer tokens are
left or whose rank is higher. -/
theorem follows_operand
    {precedence : Precedence} (below : tape.FollowsBelow task start)
    (isBelow : left.length < start ∨ left.length = start ∧ precedence.rank + 2 < task.rank) :
    tape.Follows task start left (Plan.operand precedence)
      (Expr.readOperand tape.finish precedence left) := by
  cases precedence <;> rw [Plan.operand, Expr.readOperand.eq_def] <;> exact below.ask _ isBelow

theorem followsTask_level
    {precedence : Precedence} (below : tape.FollowsBelow (.level precedence) left.length) :
    tape.FollowsTask (.level precedence) left := by
  change tape.Follows _ _ _ (Plan.level precedence) (Expr.readLevel _ _ _)
  rw [Expr.readLevel.eq_def]
  have isHigher : precedence.rank + 2 < (Task.level precedence).rank := Nat.lt_succ_self _
  refine (follows_operand below (.inr ⟨rfl, isHigher⟩)).bind fun operand others isFewer => ?_
  exact (below.ask (.operations precedence operand) (.inl isFewer)).last fun _ _ _ => .value

theorem followsTask_operations
    {precedence : Precedence} {operand : Expr}
    (below : tape.FollowsBelow (.operations precedence operand) left.length) :
    tape.FollowsTask (.operations precedence operand) left := by
  change tape.Follows _ _ _ (Plan.operations precedence operand) (Expr.readOperations _ _ _ _)
  rw [Expr.readOperations.eq_def]
  refine .look ?_
  match left with
  | [] =>
      rw [next, tape.isEnd]
      cases precedence <;> exact .value
  | first :: others =>
      rw [next]
      dsimp only
      cases precedence.operator? first.kind with
      | none => exact .value
      | some operator =>
          refine .take ?_
          refine (follows_operand below (.inl (Nat.lt_succ_self _))).bind
            fun right rest isFewer => ?_
          refine (below.ask (.operations precedence _) (.inl ?_)).last fun _ _ _ => .value
          exact Nat.lt_succ_of_lt isFewer

/-! ## Unary operators and suffixes -/

theorem followsTask_unary
    (below : tape.FollowsBelow .unary left.length) : tape.FollowsTask .unary left := by
  change tape.Follows _ _ _ Plan.unary (Expr.readUnary _ _)
  have isSuffixed := below.ask .suffixed (.inr ⟨rfl, by decide⟩)
  match left with
  | [] =>
      rw [Expr.readUnary.eq_def]
      refine .look ?_
      simp only [next, tape.isEnd, reduceCtorEq, ↓reduceIte]
      exact isSuffixed
  | first :: others =>
      rw [Expr.readUnary.eq_def]
      dsimp only
      split
      case h_1 isSign | h_2 isSign =>
        refine .look ?_
        simp only [next, isSign, reduceCtorEq, ↓reduceIte]
        refine .take ?_
        refine (below.ask .unary (.inl (Nat.lt_succ_self _))).bind fun _ _ _ => ?_
        exact .value
      case h_3 noBang noMinus =>
        refine .look ?_
        rw [next, if_neg noBang, if_neg noMinus]
        exact isSuffixed

theorem followsTask_suffixed
    (below : tape.FollowsBelow .suffixed left.length) : tape.FollowsTask .suffixed left := by
  change tape.Follows _ _ _ Plan.suffixed (Expr.readPostfix _ _)
  rw [Expr.readPostfix.eq_def]
  refine (below.ask .primary (.inr ⟨rfl, by decide⟩)).bind fun operand others isFewer => ?_
  exact (below.ask (.suffixes operand) (.inl isFewer)).last fun _ _ _ => .value

theorem follows_items
    (below : tape.FollowsBelow task start) (isFewer : left.length < start) :
    tape.Follows task start left Plan.items (Expr.readItems tape.finish left) := by
  rw [Expr.readItems.eq_def]
  refine (below.ask .expression (.inl isFewer)).bind fun head others afterHead => ?_
  refine (below.ask .moreExpressions (.inl (Nat.lt_trans afterHead isFewer))).bind fun _ _ _ => ?_
  exact .value

theorem followsTask_moreExpressions
    (below : tape.FollowsBelow .moreExpressions left.length) :
    tape.FollowsTask .moreExpressions left := by
  change tape.Follows _ _ _ Plan.moreExpressions (Expr.readMore _ _)
  rw [Expr.readMore_eq]
  exact .more (fun _ isFewer => below.ask .expression (.inl isFewer))
    fun _ isFewer => below.ask .moreExpressions (.inl isFewer)

theorem follows_arguments
    (below : tape.FollowsBelow task start) (isFewer : left.length < start) :
    tape.Follows task start left Plan.arguments (Expr.readArguments tape.finish left) := by
  rw [Expr.readArguments.eq_def]
  refine .look ?_
  rcases accept_cases .rightParen left with isNone | ⟨token, rest, rfl, isClosing⟩
  · rw [isNone, if_neg (Follows.next_kind_ne (by decide) isNone)]
    refine (follows_items below isFewer).bind fun _ closed _ => ?_
    refine (Follows.expect (by decide) closed).bind fun _ _ _ => ?_
    exact .value
  · rw [accept_cons rest isClosing, next, if_pos isClosing]
    exact .expect_cons isClosing .value

theorem followsTask_suffixes
    {operand : Expr} (below : tape.FollowsBelow (.suffixes operand) left.length) :
    tape.FollowsTask (.suffixes operand) left := by
  change tape.Follows _ _ _ (Plan.suffixes operand) (Expr.readSuffixes _ _ _)
  match left with
  | [] =>
      rw [Expr.readSuffixes.eq_def]
      refine .look ?_
      simp only [next, tape.isEnd, reduceCtorEq, ↓reduceIte]
      exact .value
  | first :: others =>
      rw [Expr.readSuffixes.eq_def]
      dsimp only
      split
      case h_1 isCall =>
        refine .look ?_
        simp only [next, isCall, ↓reduceIte]
        refine .take ?_
        refine (follows_arguments below (Nat.lt_succ_self _)).bind fun _ rest isFewer => ?_
        refine (below.ask (.suffixes _) (.inl ?_)).last fun _ _ _ => .value
        exact Nat.lt_succ_of_lt isFewer
      case h_2 isIndex =>
        refine .look ?_
        simp only [next, isIndex, reduceCtorEq, ↓reduceIte]
        refine .take ?_
        refine (below.ask .expression (.inl (Nat.lt_succ_self _))).bind fun _ closed isClosed => ?_
        refine (Follows.expect (by decide) closed).bind fun _ rest isFewer => ?_
        refine (below.ask (.suffixes _) (.inl ?_)).last fun _ _ _ => .value
        exact Nat.lt_succ_of_lt (Nat.lt_trans isFewer isClosed)
      case h_3 isDot =>
        refine .look ?_
        simp only [next, isDot, reduceCtorEq, ↓reduceIte]
        refine .take ?_
        refine (Follows.expect (by decide) others).bind fun called named isNamed => ?_
        have isFewer := Nat.lt_succ_of_lt isNamed
        refine (below.ask (.afterDot operand called.text) (.inl isFewer)).bind
          fun whole rest isRest => ?_
        refine (below.ask (.suffixes whole) (.inl ?_)).last fun _ _ _ => .value
        exact length_lt_of_optional isFewer isRest
      case h_4 noCall noIndex noDot =>
        refine .look ?_
        rw [next, if_neg noCall, if_neg noIndex, if_neg noDot]
        exact .value

theorem followsTask_afterDot
    {owner : Expr} {called : String}
    (below : tape.FollowsBelow (.afterDot owner called) left.length) :
    tape.FollowsTask (.afterDot owner called) left := by
  change tape.Follows _ _ _ (Plan.afterDot owner called) (Expr.readMember _ _ _ _)
  rw [Expr.readMember.eq_def, Expr.listOperation?]
  refine .look ?_
  rcases accept_cases .leftParen left with isNone | ⟨opening, others, rfl, isOpening⟩
  · have noOpening : (next tape.finish left).kind ≠ .leftParen :=
      Follows.next_kind_ne (by decide) isNone
    rw [accept_eq_none_iff.mp isNone, if_neg Bool.false_ne_true, if_neg (noOpening ·.2),
      if_neg (noOpening ·.2)]
    exact .value
  · have isFewer : others.length < (opening :: others).length := Nat.lt_succ_self _
    rw [startsWith, isOpening, beq_self_eq_true, if_pos rfl, next]
    by_cases isAppend : called = "append"
    · rw [if_pos isAppend, if_pos ⟨isAppend, isOpening⟩]
      dsimp only
      rw [expectMark, expect_cons _ _ _ isOpening]
      refine .take ?_
      refine (below.ask .expression (.inl isFewer)).bind fun _ closed _ => ?_
      refine (Follows.expect (by decide) closed).bind fun _ _ _ => ?_
      exact .value
    · rw [if_neg isAppend, if_neg (isAppend ·.1)]
      by_cases isSize : called = "size"
      · rw [if_pos isSize, if_pos ⟨isSize, isOpening⟩]
        dsimp only
        rw [expectMark, expect_cons _ _ _ isOpening]
        refine .take ?_
        refine (Follows.expect (by decide) others).bind fun _ _ _ => ?_
        exact .value
      · rw [if_neg isSize, if_neg (isSize ·.1)]
        exact .value

/-! ## Primary expressions -/

theorem followsTask_primary
    (below : tape.FollowsBelow .primary left.length) : tape.FollowsTask .primary left := by
  change tape.Follows _ _ _ Plan.primary (Expr.readPrimary _ _)
  match left with
  | [] =>
      rw [Expr.readPrimary.eq_def]
      refine .look ?_
      simp only [next, tape.isEnd, reduceCtorEq, ↓reduceIte]
      exact .fault
  | first :: others =>
      rw [Expr.readPrimary.eq_def]
      dsimp only
      split
      case h_1 isInteger =>
        refine .look ?_
        simp only [next, isInteger, ↓reduceIte]
        refine .of_cons fun isThere => .take ?_
        cases isNumeral : Text.readNumeral first.text with
        | error fault => exact .failure ⟨first, isThere, isInteger, isNumeral⟩
        | ok value => exact .value
      case h_2 isWord | h_3 isWord | h_4 isWord =>
        refine .look ?_
        simp only [next, isWord, reduceCtorEq, ↓reduceIte]
        exact .take .value
      case h_5 isGroup =>
        refine .look ?_
        simp only [next, isGroup, reduceCtorEq, ↓reduceIte]
        refine .take ?_
        refine (follows_items below (Nat.lt_succ_self _)).bind fun _ closed _ => ?_
        refine (Follows.expect (by decide) closed).bind fun _ _ _ => ?_
        exact .value
      case h_6 noInteger noTrue noFalse noName noGroup =>
        refine .look ?_
        rw [next, if_neg noInteger, if_neg noTrue, if_neg noFalse, if_neg noName, if_neg noGroup]
        exact .fault

end StructLang.Cursor.Tape
