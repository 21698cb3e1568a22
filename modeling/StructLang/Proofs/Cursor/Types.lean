import StructLang.Proofs.Cursor.Tasks

/-!
# Plans for types and parameters
-/

namespace StructLang.Cursor.Tape

open Reader

variable {tape : Tape} {left : List Token}

/-! ## Types -/

theorem followsTask_type
    (below : tape.FollowsBelow .type left.length) : tape.FollowsTask .type left := by
  change tape.Follows _ _ _ Plan.type (Ty.read _ _)
  match left with
  | [] =>
      rw [Ty.read.eq_def]
      refine .look ?_
      simp only [next, tape.isEnd, reduceCtorEq, ↓reduceIte]
      exact .fault
  | first :: others =>
      by_cases isPointer : first.kind = .fptrWord
      · refine .look ?_
        simp only [next, isPointer, reduceCtorEq, ↓reduceIte]
        exact (below.ask .functionPointer (.inr ⟨rfl, by decide⟩)).of_startingWith isPointer
      rw [Ty.read.eq_def]
      dsimp only
      split
      case h_1 isWord | h_2 isWord | h_3 isWord | h_4 isWord =>
        refine .look ?_
        simp only [next, isWord, reduceCtorEq, ↓reduceIte]
        exact .take .value
      case h_5 isList =>
        refine .look ?_
        simp only [next, isList, reduceCtorEq, ↓reduceIte]
        refine .take ?_
        refine (Follows.expect (by decide) others).bind fun _ opened isOpened => ?_
        refine (below.ask .type (.inl ?_)).bind fun element closed isClosed => ?_
        · exact Nat.lt_succ_of_lt isOpened
        refine (Follows.expect (by decide) closed).bind fun _ _ _ => ?_
        exact .value
      case h_6 => contradiction
      case h_7 noInt noBool noVoid noName noList _ =>
        refine .look ?_
        rw [next, if_neg noInt, if_neg noBool, if_neg noVoid, if_neg noList,
          if_neg isPointer, if_neg noName]
        exact .fault

theorem followsTask_moreTypes
    (below : tape.FollowsBelow .moreTypes left.length) : tape.FollowsTask .moreTypes left := by
  change tape.Follows _ _ _ Plan.moreTypes (Ty.readMore _ _)
  rw [Ty.readMore_eq]
  exact .more (fun _ isFewer => below.ask .type (.inl isFewer))
    fun _ isFewer => below.ask .moreTypes (.inl isFewer)

/-- A `void` that stands directly before an arrow is taken by both. -/
theorem withoutParameters?_cases
    (tokens : List Token) :
    ((startsWith .voidWord tokens && startsWith .arrow tokens.tail) = false ∧
        Ty.withoutParameters? tokens = none) ∨
      ∃ first rest, tokens = first :: rest ∧
        (startsWith .voidWord tokens && startsWith .arrow tokens.tail) = true ∧
        ∃ shorter, Ty.withoutParameters? tokens = some ⟨first, rest, shorter⟩ := by
  match tokens with
  | [] => exact Or.inl ⟨rfl, rfl⟩
  | [first] => exact Or.inl ⟨Bool.and_false _, rfl⟩
  | first :: second :: rest =>
      by_cases isPair : first.kind = .voidWord ∧ second.kind = .arrow
      · refine Or.inr ⟨first, second :: rest, rfl, ?_, _, if_pos isPair⟩
        simp [startsWith, isPair]
      · refine Or.inl ⟨?_, if_neg isPair⟩
        simpa [startsWith] using isPair

theorem follows_parameterTypes
    {start : Nat} (below : tape.FollowsBelow .functionPointer start)
    (isFewer : left.length < start) :
    tape.Follows .functionPointer start left Plan.parameterTypes
      (Ty.readParameters tape.finish left) := by
  rw [Plan.parameterTypes, Ty.readParameters.eq_def]
  refine .startsWithTwo (by decide) (by decide) ?_
  rcases withoutParameters?_cases left with ⟨isFalse, isNone⟩ | isLone
  · rw [isFalse, isNone, if_neg Bool.false_ne_true]
    refine (below.ask .type (.inl isFewer)).bind fun head others afterHead => ?_
    refine (below.ask .moreTypes (.inl (Nat.lt_trans afterHead isFewer))).bind fun tail _ _ => ?_
    exact .value
  · obtain ⟨first, rest, rfl, isTrue, shorter, isSome⟩ := isLone
    rw [isTrue, isSome, if_pos rfl]
    exact .take .value

theorem followsTask_functionPointer
    (below : tape.FollowsBelow .functionPointer left.length) :
    tape.FollowsTask .functionPointer left := by
  change tape.Follows _ _ _ Plan.functionPointer (startingWith _ _ _ (Ty.read _ _))
  refine .startingWith (by decide) fun first others isLeft isWord => ?_
  subst isLeft
  rw [Ty.read.eq_def]
  simp only [isWord]
  refine (Follows.expect (by decide) others).bind fun _ opened isOpened => ?_
  have isFewer := Nat.lt_succ_of_lt isOpened
  refine (follows_parameterTypes below isFewer).bind fun _ closed isClosed => ?_
  refine (Follows.expect (by decide) closed).bind fun _ pointed isPointed => ?_
  refine (below.ask .type (.inl ?_)).bind fun _ ended _ => ?_
  · exact length_lt_of_three isFewer isClosed isPointed
  refine (Follows.expect (by decide) ended).bind fun _ _ _ => ?_
  exact .value

/-! ## Parameters -/

theorem followsTask_parameter
    (below : tape.FollowsBelow .parameter left.length) : tape.FollowsTask .parameter left := by
  change tape.Follows _ _ _ Plan.parameter (readParameter _ _)
  refine .look ?_
  refine (below.ask .type (.inr ⟨rfl, by decide⟩)).bind fun type named _ => ?_
  refine (Follows.expect (by decide) named).bind fun _ _ _ => ?_
  exact .value

theorem followsTask_moreParameters
    (below : tape.FollowsBelow .moreParameters left.length) :
    tape.FollowsTask .moreParameters left := by
  change tape.Follows _ _ _ Plan.moreParameters (readMoreParameters _ _)
  rw [readMoreParameters_eq]
  exact .more (fun _ isFewer => below.ask .parameter (.inl isFewer))
    fun _ isFewer => below.ask .moreParameters (.inl isFewer)

theorem followsTask_parameters
    (below : tape.FollowsBelow .parameters left.length) : tape.FollowsTask .parameters left := by
  change tape.Follows _ _ _ Plan.parameters (readParameters _ _)
  refine (Follows.expect (by decide) left).bind fun _ opened isOpened => ?_
  refine .look ?_
  dsimp only
  rcases accept_cases .rightParen opened with isNone | ⟨token, rest, rfl, isClosing⟩
  · rw [isNone, if_neg (Follows.next_kind_ne (by decide) isNone)]
    refine (below.ask .parameter (.inl isOpened)).bind fun head others isFewer => ?_
    have isFurther := Nat.lt_trans isFewer isOpened
    refine (below.ask .moreParameters (.inl isFurther)).bind fun tail closed _ => ?_
    refine (Follows.expect (by decide) closed).bind fun _ _ _ => ?_
    exact .value
  · rw [accept_cons rest isClosing, next, if_pos isClosing]
    exact .expect_cons isClosing .value

end StructLang.Cursor.Tape
