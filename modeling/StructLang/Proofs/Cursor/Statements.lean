import StructLang.Proofs.Cursor.Tasks

/-!
# Plans for statements
-/

namespace StructLang.Cursor.Tape

open Reader

variable {tape : Tape} {left : List Token} {task : Task} {start : Nat}

/-! ## Names and conditions -/

theorem followsTask_moreNames
    {thing : NamedThing} (below : tape.FollowsBelow (.moreNames thing) left.length) :
    tape.FollowsTask (.moreNames thing) left := by
  change tape.Follows _ _ _ (Plan.moreNames thing) (readMoreNames _ _ _)
  rw [readMoreNames_eq]
  exact .more (fun rest _ => .expect (by decide) rest)
    fun _ isFewer => below.ask (.moreNames thing) (.inl isFewer)

theorem follows_namesAfter
    {thing : NamedThing} {first : Token}
    (below : tape.FollowsBelow task start) (isFewer : left.length < start) :
    tape.Follows task start left (Plan.namesAfter thing first)
      (readNamesAfter tape.finish thing first left) := by
  refine (below.ask (.moreNames thing) (.inl isFewer)).bind fun _ ended _ => ?_
  refine (Follows.expect (by decide) ended).bind fun _ _ _ => ?_
  exact .value

theorem follows_condition
    {word : TokenKind} (below : tape.FollowsBelow task start) (isFewer : left.length < start) :
    tape.Follows task start left (Plan.condition word)
      (Stmt.readCondition tape.finish word left) := by
  refine (Follows.expect (by decide) left).bind fun _ opened isOpened => ?_
  refine (below.ask .expression (.inl (Nat.lt_trans isOpened isFewer))).bind fun _ closed _ => ?_
  refine (Follows.expect (by decide) closed).bind fun _ _ _ => ?_
  exact .value

/-! ## Simple statements -/

theorem followsTask_declaration
    (below : tape.FollowsBelow .declaration left.length) :
    tape.FollowsTask .declaration left := by
  change tape.Follows _ _ _ Plan.declaration (Stmt.readDeclaration _ _)
  refine .look ?_
  refine (below.ask .type (.inr ⟨rfl, by decide⟩)).bind fun _ typed isTyped => ?_
  refine (Follows.expect (by decide) typed).bind fun _ named isNamed => ?_
  refine (follows_namesAfter below (Nat.lt_trans isNamed isTyped)).bind fun _ _ _ => ?_
  exact .value

theorem followsTask_simple
    (below : tape.FollowsBelow .simple left.length) : tape.FollowsTask .simple left := by
  change tape.Follows _ _ _ Plan.simple (Stmt.readSimple _ _)
  refine .look ?_
  refine (below.ask .expression (.inr ⟨rfl, by decide⟩)).bind fun expression others isFewer => ?_
  dsimp only
  rcases accept_cases .assign others with isNone | ⟨token, assigned, rfl, isAssign⟩
  · rw [isNone]
    refine .accept_none (by decide) isNone ?_
    refine (Follows.expect (by decide) others).bind fun _ _ _ => ?_
    dsimp only
    cases Stmt.ofExpression? expression (next tape.finish left).position with
    | none => exact .fault
    | some statement => exact .value
  · rw [accept_cons assigned isAssign]
    refine .accept_some isAssign ?_
    have isAssigned := Nat.lt_trans (Nat.lt_succ_self _) isFewer
    refine (below.ask .expression (.inl isAssigned)).bind fun _ ended _ => ?_
    refine (Follows.expect (by decide) ended).bind fun _ _ _ => ?_
    exact .value

theorem followsTask_display
    (below : tape.FollowsBelow .display left.length) : tape.FollowsTask .display left := by
  change tape.Follows _ _ _ Plan.display (startingWith _ _ _ (Stmt.read _ _))
  refine .startingWith (by decide) fun first others isLeft isWord => ?_
  subst isLeft
  rw [Stmt.read.eq_def, Plan.condition]
  simp only [isWord, Stmt.readDisplay, bind_assoc, pure_bind]
  refine (Follows.expect (by decide) others).bind fun _ opened isOpened => ?_
  have isFewer := Nat.lt_succ_of_lt isOpened
  refine (below.ask .expression (.inl isFewer)).bind fun _ closed _ => ?_
  refine (Follows.expect (by decide) closed).bind fun _ ended _ => ?_
  refine (Follows.expect (by decide) ended).bind fun _ _ _ => ?_
  exact .value

theorem followsTask_giveBack
    (below : tape.FollowsBelow .giveBack left.length) : tape.FollowsTask .giveBack left := by
  change tape.Follows _ _ _ Plan.giveBack (startingWith _ _ _ (Stmt.read _ _))
  refine .startingWith (by decide) fun first others isLeft isWord => ?_
  subst isLeft
  rw [Stmt.read.eq_def]
  simp only [isWord, Stmt.readReturn]
  refine .look ?_
  rcases accept_cases .semicolon others with isNone | ⟨token, rest, rfl, isEnd⟩
  · rw [isNone, if_neg (Follows.next_kind_ne (by decide) isNone)]
    simp only [bind_assoc, pure_bind]
    refine (below.ask .expression (.inl (Nat.lt_succ_self _))).bind fun _ ended _ => ?_
    refine (Follows.expect (by decide) ended).bind fun _ _ _ => ?_
    exact .value
  · rw [accept_cons rest isEnd, next, if_pos isEnd]
    exact .expect_cons isEnd .value

/-! ## Statements with bodies -/

theorem follows_elseBody
    (below : tape.FollowsBelow task start) (isFewer : left.length < start) :
    tape.Follows task start left Plan.elseBody (Stmt.readElse tape.finish left) := by
  rw [Plan.elseBody, Stmt.readElse.eq_def]
  rcases accept_cases .elseWord left with isNone | ⟨token, rest, rfl, isElse⟩
  · rw [isNone]
    exact .accept_none (by decide) isNone .value
  · rw [accept_cons rest isElse]
    refine .accept_some isElse ?_
    refine (below.ask .statement (.inl ?_)).last fun _ _ _ => .value
    exact Nat.lt_of_succ_lt isFewer

theorem followsTask_branch
    (below : tape.FollowsBelow .branch left.length) : tape.FollowsTask .branch left := by
  change tape.Follows _ _ _ Plan.branch (startingWith _ _ _ (Stmt.read _ _))
  refine .startingWith (by decide) fun first others isLeft isWord => ?_
  subst isLeft
  rw [Stmt.read.eq_def]
  simp only [isWord]
  refine (follows_condition below (Nat.lt_succ_self _)).bind fun _ rest isRest => ?_
  have isFewer := Nat.lt_succ_of_lt isRest
  refine (below.ask .statement (.inl isFewer)).bind fun _ middle isMiddle => ?_
  refine (follows_elseBody below (Nat.lt_trans isMiddle isFewer)).bind fun _ _ _ => ?_
  exact .value

theorem followsTask_loop
    (below : tape.FollowsBelow .loop left.length) : tape.FollowsTask .loop left := by
  change tape.Follows _ _ _ Plan.loop (startingWith _ _ _ (Stmt.read _ _))
  refine .startingWith (by decide) fun first others isLeft isWord => ?_
  subst isLeft
  rw [Stmt.read.eq_def]
  simp only [isWord]
  refine (follows_condition below (Nat.lt_succ_self _)).bind fun _ rest isRest => ?_
  refine (below.ask .statement (.inl (Nat.lt_succ_of_lt isRest))).bind fun _ _ _ => ?_
  exact .value

theorem followsTask_block
    (below : tape.FollowsBelow .block left.length) : tape.FollowsTask .block left := by
  change tape.Follows _ _ _ Plan.block (Stmt.readBlock _ _)
  rw [Stmt.readBlock.eq_def]
  refine (Follows.expect (by decide) left).bind fun _ opened isOpened => ?_
  refine (below.ask .statements (.inl isOpened)).bind fun _ closed _ => ?_
  refine (Follows.expect (by decide) closed).bind fun _ _ _ => ?_
  exact .value

theorem followsTask_statements
    (below : tape.FollowsBelow .statements left.length) : tape.FollowsTask .statements left := by
  change tape.Follows _ _ _ Plan.statements (Stmt.readAll _ _)
  rw [Stmt.readAll_eq]
  exact .upToBrace (below.ask .statement (.inr ⟨rfl, by decide⟩))
    fun _ isFewer => below.ask .statements (.inl isFewer)

/-! ## Any statement -/

theorem follows_startsDeclaration
    {alpha : Type} {bound : Nat} {next : Bool → Plan alpha} {reading : Reading alpha bound}
    (follows : tape.Follows task start left (next (Stmt.startsDeclaration left)) reading) :
    tape.Follows task start left (Plan.startsDeclaration >>= next) reading := by
  rw [Plan.startsDeclaration, bind_assoc]
  refine .look ?_
  match left with
  | [] =>
      rw [Reader.next, tape.isEnd, if_neg (by decide)]
      exact .startsWithTwo (by decide) (by decide) follows
  | first :: others =>
      rw [Stmt.startsDeclaration] at follows
      rw [Reader.next]
      cases isWord : first.kind.isTypeWord with
      | true =>
          rw [isWord, Bool.true_or] at follows
          rw [if_pos rfl, pure_bind]
          exact follows
      | false =>
          rw [isWord, Bool.false_or] at follows
          rw [if_neg Bool.false_ne_true]
          exact .startsWithTwo (by decide) (by decide) follows

theorem followsTask_statement
    (below : tape.FollowsBelow .statement left.length) : tape.FollowsTask .statement left := by
  change tape.Follows _ _ _ Plan.statement (Stmt.read _ _)
  match left with
  | [] =>
      rw [Stmt.read.eq_def]
      refine .look ?_
      simp only [next, tape.isEnd, reduceCtorEq, ↓reduceIte]
      refine follows_startsDeclaration ?_
      exact below.ask .simple (.inr ⟨rfl, by decide⟩)
  | first :: others =>
      refine .look ?_
      rw [next]
      by_cases isBlock : first.kind = .leftBrace
      · rw [if_pos isBlock, Stmt.read.eq_def]
        simp only [isBlock]
        exact below.ask .block (.inr ⟨rfl, by decide⟩)
      rw [if_neg isBlock]
      by_cases isIf : first.kind = .ifWord
      · rw [if_pos isIf]
        exact (below.ask .branch (.inr ⟨rfl, by decide⟩)).of_startingWith isIf
      rw [if_neg isIf]
      by_cases isWhile : first.kind = .whileWord
      · rw [if_pos isWhile]
        exact (below.ask .loop (.inr ⟨rfl, by decide⟩)).of_startingWith isWhile
      rw [if_neg isWhile]
      by_cases isDisplay : first.kind = .displayWord
      · rw [if_pos isDisplay]
        exact (below.ask .display (.inr ⟨rfl, by decide⟩)).of_startingWith isDisplay
      rw [if_neg isDisplay]
      by_cases isReturn : first.kind = .returnWord
      · rw [if_pos isReturn]
        exact (below.ask .giveBack (.inr ⟨rfl, by decide⟩)).of_startingWith isReturn
      rw [if_neg isReturn, Stmt.read.eq_def]
      dsimp only
      split
      case h_1 | h_2 | h_3 | h_4 | h_5 => contradiction
      case h_6 =>
        refine follows_startsDeclaration ?_
        split
        · exact below.ask .declaration (.inr ⟨rfl, by decide⟩)
        · exact below.ask .simple (.inr ⟨rfl, by decide⟩)

end StructLang.Cursor.Tape
