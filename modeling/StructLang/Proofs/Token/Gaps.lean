import StructLang.Token.Scan

/-!
# Gaps between lexemes

A gap is a run of blanks and comments. What comes after it matters to a line comment alone, which
goes on up to the end of its line.

* `skipGap` passes over a gap and goes on behind it.
* Where it stops, no further gap starts.
* It fails exactly at a block comment that nothing closes.
-/

namespace StructLang.Scan

/-! ## What a gap is -/

/-- Whether a comment starts a text. -/
def StartsComment (text : List Char) : Prop :=
  ['/', '/'] <+: text ∨ ['/', '*'] <+: text

/-- Whether the end of a block comment stands in a text. -/
def ClosesComment (text : List Char) : Prop :=
  ['*', '/'] <:+: text

/-- A blank or a comment, and the text after it. -/
inductive GapPiece : List Char → List Char → Prop
  | blank {character : Char} {after : List Char} :
      character ∈ [' ', '\t', '\n', '\r'] →
      GapPiece [character] after
  | lineComment {body after : List Char} :
      '\n' ∉ body →
      (∀ next ∈ after.head?, next = '\n') →
      GapPiece ('/' :: '/' :: body) after
  | blockComment {body after : List Char} :
      ¬ ClosesComment body →
      GapPiece ('/' :: '*' :: (body ++ ['*', '/'])) after

/-- A run of blanks and comments, and the text after it. -/
inductive Gap : List Char → List Char → Prop
  | none {after : List Char} : Gap [] after
  | more {piece gap after : List Char} :
      GapPiece piece (gap ++ after) → Gap gap after → Gap (piece ++ gap) after

/-- Whether no gap goes on at the start of a text. -/
def EndsGap (text : List Char) : Prop :=
  (∀ first ∈ text.head?, first ∉ [' ', '\t', '\n', '\r']) ∧ ¬ StartsComment text

theorem separatesTokens_iff
    {character : Char} :
    Alphabet.separatesTokens character = true ↔ character ∈ [' ', '\t', '\n', '\r'] := by
  simp [Alphabet.separatesTokens, or_assoc]

theorem ClosesComment.cons
    {text : List Char} (closes : ClosesComment text) (first : Char) :
    ClosesComment (first :: text) :=
  List.infix_cons closes

theorem not_closesComment_nil : ¬ ClosesComment [] := by
  intro closes
  simpa using closes.length_le

/-- A text in which the comment goes on after one character. -/
theorem not_closesComment_cons
    {first : Char} {body : List Char} (notHere : first = '*' → ∀ next ∈ body.head?, next ≠ '/')
    (notLater : ¬ ClosesComment body) :
    ¬ ClosesComment (first :: body) := by
  intro closes
  rcases List.infix_cons_iff.mp closes with here | later
  · obtain ⟨isStar, startsSlash⟩ := List.cons_prefix_cons.mp here
    cases body with
    | nil => simp at startsSlash
    | cons second rest =>
        obtain ⟨isSlash, -⟩ := List.cons_prefix_cons.mp startsSlash
        exact notHere isStar.symm second rfl isSlash.symm
  · exact notLater later

/-! ## Passing over a gap -/

/-- Where no comment starts, a blank is passed over and anything else ends the gap. -/
theorem skipGap_cons
    {first : Char} {others : List Char} (noComment : ¬ StartsComment (first :: others))
    (position : Position) :
    skipGap .blank position (first :: others) =
      if Alphabet.separatesTokens first then skipGap .blank (position.after first) others
      else .ok (position, first :: others) := by
  have noLineComment : ∀ rest, first = '/' → others = '/' :: rest → False := by
    rintro rest rfl rfl
    exact noComment (Or.inl ⟨rest, rfl⟩)
  have noBlockComment : ∀ rest, first = '/' → others = '*' :: rest → False := by
    rintro rest rfl rfl
    exact noComment (Or.inr ⟨rest, rfl⟩)
  exact skipGap.eq_4 position first others noLineComment noBlockComment

/-- A block comment goes on behind a character where it is not closed. -/
theorem skipGap_goesOn
    {first : Char} {others : List Char}
    (notHere : ∀ further, first = '*' → others = '/' :: further → False)
    (opened position : Position) :
    skipGap (.blockComment opened) position (first :: others) =
      skipGap (.blockComment opened) (position.after first) others :=
  skipGap.eq_9 position opened first others notHere

theorem skipGap_blank
    {character : Char} (isBlank : character ∈ [' ', '\t', '\n', '\r']) (position : Position)
    (after : List Char) :
    skipGap .blank position (character :: after) =
      skipGap .blank (position.after character) after := by
  have noComment : ¬ StartsComment (character :: after) := by
    rintro (isLine | isBlock)
    · obtain ⟨rfl, -⟩ := List.cons_prefix_cons.mp isLine
      simp at isBlank
    · obtain ⟨rfl, -⟩ := List.cons_prefix_cons.mp isBlock
      simp at isBlank
  rw [skipGap_cons noComment, if_pos (separatesTokens_iff.mpr isBlank)]

theorem skipGap_lineComment
    {body after : List Char} (oneLine : '\n' ∉ body)
    (untilEnd : ∀ next ∈ after.head?, next = '\n') (position : Position) :
    skipGap .lineComment position (body ++ after) =
      skipGap .blank (position.afterAll body) after := by
  induction body generalizing position with
  | nil =>
      cases after with
      | nil => rfl
      | cons next rest =>
          have isNewline : next = '\n' := untilEnd next rfl
          have blank : next ∈ [' ', '\t', '\n', '\r'] := by simp [isNewline]
          exact (if_pos isNewline).trans (skipGap_blank blank position rest).symm
  | cons first rest inductionHypothesis =>
      have notNewline : first ≠ '\n' := by
        rintro rfl
        exact oneLine List.mem_cons_self
      have restOneLine : '\n' ∉ rest := fun member => oneLine (List.mem_cons_of_mem _ member)
      have passed := inductionHypothesis restOneLine (position.after first)
      exact (if_neg notNewline).trans passed

theorem skipGap_blockComment
    {body : List Char} (notClosed : ¬ ClosesComment body) (opened position : Position)
    (after : List Char) :
    skipGap (.blockComment opened) position (body ++ '*' :: '/' :: after) =
      skipGap .blank ((position.afterAll body).afterAll ['*', '/']) after := by
  induction body generalizing position with
  | nil => rfl
  | cons first rest inductionHypothesis =>
      have restNotClosed : ¬ ClosesComment rest := fun closes => notClosed (closes.cons first)
      have goesOn : ∀ further, first = '*' → rest ++ '*' :: '/' :: after = '/' :: further →
          False := by
        intro further isStar restEq
        cases rest with
        | nil => simp at restEq
        | cons second others =>
            simp only [List.cons_append, List.cons.injEq] at restEq
            apply notClosed
            rw [isStar, restEq.1]
            exact ⟨[], others, rfl⟩
      rw [List.cons_append, skipGap_goesOn goesOn, inductionHypothesis restNotClosed]
      rfl

theorem skipGap_piece
    {piece after : List Char} (isPiece : GapPiece piece after) (position : Position) :
    skipGap .blank position (piece ++ after) =
      skipGap .blank (position.afterAll piece) after := by
  cases isPiece with
  | blank isBlank => exact skipGap_blank isBlank position after
  | lineComment oneLine untilEnd => exact skipGap_lineComment oneLine untilEnd _
  | blockComment notClosed =>
      rw [List.cons_append, List.cons_append, List.append_assoc]
      change skipGap (.blockComment position) (position.afterAll ['/', '*']) _ = _
      have passed := skipGap_blockComment notClosed position
        (position.afterAll ['/', '*']) after
      simpa [Position.afterAll_append] using passed

/-- The search for the end of a gap goes on behind what of the gap was passed. -/
theorem skipGap_gap
    {gap after : List Char} (isGap : Gap gap after) (position : Position) :
    skipGap .blank position (gap ++ after) =
      skipGap .blank (position.afterAll gap) after := by
  induction isGap generalizing position with
  | none => rfl
  | more isPiece _ inductionHypothesis =>
      rw [List.append_assoc, skipGap_piece isPiece, inductionHypothesis,
        Position.afterAll_append]

theorem skipGap_endsGap
    {text : List Char} (ends : EndsGap text) (position : Position) :
    skipGap .blank position text = .ok (position, text) := by
  obtain ⟨notBlank, noComment⟩ := ends
  cases text with
  | nil => rfl
  | cons first others =>
      have separatesNot : ¬ Alphabet.separatesTokens first = true := fun separates =>
        notBlank first rfl (separatesTokens_iff.mp separates)
      rw [skipGap_cons noComment, if_neg separatesNot]

/-- A block comment that nothing closes is a fault at its start. -/
theorem skipGap_openComment
    {body : List Char} (notClosed : ¬ ClosesComment body) (opened position : Position) :
    skipGap (.blockComment opened) position body = .error (.openComment opened) := by
  induction body generalizing position with
  | nil => rfl
  | cons first rest inductionHypothesis =>
      have goesOn : ∀ further, first = '*' → rest = '/' :: further → False := by
        rintro further rfl rfl
        exact notClosed ⟨[], further, rfl⟩
      rw [skipGap_goesOn goesOn]
      exact inductionHypothesis (fun closes => notClosed (closes.cons first)) _

/-! ## What was passed over is a gap -/

/-- What is passed over before the text after it, when a gap is entered in one of its parts. -/
def Passes : GapPart → List Char → List Char → Prop
  | .blank, passed, after => Gap passed after
  | .lineComment, passed, after =>
      ∃ body gap, passed = body ++ gap ∧ '\n' ∉ body ∧
        (∀ next ∈ (gap ++ after).head?, next = '\n') ∧ Gap gap after
  | .blockComment _, passed, after =>
      ∃ body gap, passed = body ++ '*' :: '/' :: gap ∧ ¬ ClosesComment body ∧ Gap gap after

theorem passes_nil_lineComment
    {after : List Char} (untilEnd : ∀ next ∈ after.head?, next = '\n') :
    Passes .lineComment [] after :=
  ⟨[], [], rfl, List.not_mem_nil, untilEnd, .none⟩

theorem Passes.lineComment
    {passed after : List Char} (passes : Passes .lineComment passed after) :
    Gap ('/' :: '/' :: passed) after := by
  obtain ⟨body, gap, rfl, oneLine, untilEnd, isGap⟩ := passes
  exact Gap.more (.lineComment oneLine untilEnd) isGap

theorem Passes.blockComment
    {opened : Position} {passed after : List Char}
    (passes : Passes (.blockComment opened) passed after) :
    Gap ('/' :: '*' :: passed) after := by
  obtain ⟨body, gap, rfl, notClosed, isGap⟩ := passes
  have joined := Gap.more (.blockComment notClosed) isGap
  simpa using joined

theorem Passes.lineComment_cons
    {first : Char} {passed after : List Char} (notNewline : first ≠ '\n')
    (passes : Passes .lineComment passed after) :
    Passes .lineComment (first :: passed) after := by
  obtain ⟨body, gap, rfl, oneLine, untilEnd, isGap⟩ := passes
  refine ⟨first :: body, gap, rfl, ?_, untilEnd, isGap⟩
  intro member
  rcases List.mem_cons.mp member with isFirst | inBody
  · exact notNewline isFirst.symm
  · exact oneLine inBody

theorem Passes.lineComment_newline
    {passed after : List Char} (isGap : Gap passed after) :
    Passes .lineComment ('\n' :: passed) after := by
  have newlineGap : Gap (['\n'] ++ passed) after := Gap.more (.blank (by simp)) isGap
  refine ⟨[], '\n' :: passed, rfl, List.not_mem_nil, ?_, newlineGap⟩
  intro next isNext
  simpa using isNext.symm

theorem Passes.blockComment_cons
    {opened : Position} {first : Char} {passed after rest : List Char}
    (goesOn : ∀ further, first = '*' → rest = '/' :: further → False)
    (isRest : rest = passed ++ after) (passes : Passes (.blockComment opened) passed after) :
    Passes (.blockComment opened) (first :: passed) after := by
  obtain ⟨body, gap, rfl, notClosed, isGap⟩ := passes
  refine ⟨first :: body, gap, rfl, not_closesComment_cons ?_ notClosed, isGap⟩
  intro isStar next isNext isSlash
  cases body with
  | nil => simp at isNext
  | cons second others =>
      have secondEq : second = '/' := by simpa [isSlash] using isNext
      apply goesOn (others ++ '*' :: '/' :: gap ++ after) isStar
      rw [isRest, secondEq]
      simp

/-- Where a gap ends, it was a gap that was passed over, and no further one starts. -/
theorem skipGap_ok
    {part : GapPart} {position place : Position} {text rest : List Char}
    (skipped : skipGap part position text = .ok (place, rest)) :
    ∃ passed, text = passed ++ rest ∧ Passes part passed rest ∧
      place = position.afterAll passed ∧ EndsGap rest := by
  fun_induction skipGap part position text with
  | case1 position =>
      cases skipped
      exact ⟨[], rfl, .none, rfl, by simp [EndsGap, StartsComment]⟩
  | case2 position others inductionHypothesis =>
      obtain ⟨passed, rfl, passes, rfl, ends⟩ := inductionHypothesis skipped
      exact ⟨'/' :: '/' :: passed, rfl, passes.lineComment, rfl, ends⟩
  | case3 position others inductionHypothesis =>
      obtain ⟨passed, rfl, passes, rfl, ends⟩ := inductionHypothesis skipped
      exact ⟨'/' :: '*' :: passed, rfl, passes.blockComment, rfl, ends⟩
  | case4 position character others _ _ separates inductionHypothesis =>
      obtain ⟨passed, rfl, passes, rfl, ends⟩ := inductionHypothesis skipped
      have isBlank := separatesTokens_iff.mp separates
      exact ⟨character :: passed, rfl, Gap.more (.blank isBlank) passes, rfl, ends⟩
  | case5 position character others noLineComment noBlockComment notSeparates =>
      cases skipped
      refine ⟨[], rfl, .none, rfl, ?_, ?_⟩
      · intro first isFirst isBlank
        obtain rfl : character = first := by simpa using isFirst
        exact notSeparates (separatesTokens_iff.mpr isBlank)
      · rintro (⟨others, isComment⟩ | ⟨others, isComment⟩)
        · simp only [List.cons_append, List.nil_append, List.cons.injEq] at isComment
          exact noLineComment others isComment.1.symm isComment.2.symm
        · simp only [List.cons_append, List.nil_append, List.cons.injEq] at isComment
          exact noBlockComment others isComment.1.symm isComment.2.symm
  | case6 position =>
      cases skipped
      exact ⟨[], rfl, passes_nil_lineComment (by simp), rfl, by simp [EndsGap, StartsComment]⟩
  | case7 position others inductionHypothesis =>
      obtain ⟨passed, rfl, passes, rfl, ends⟩ := inductionHypothesis skipped
      exact ⟨'\n' :: passed, rfl, .lineComment_newline passes, rfl, ends⟩
  | case8 position character others notNewline inductionHypothesis =>
      obtain ⟨passed, rfl, passes, rfl, ends⟩ := inductionHypothesis skipped
      exact ⟨character :: passed, rfl, passes.lineComment_cons notNewline, rfl, ends⟩
  | case9 => cases skipped
  | case10 opened position others inductionHypothesis =>
      obtain ⟨passed, rfl, passes, rfl, ends⟩ := inductionHypothesis skipped
      exact ⟨'*' :: '/' :: passed, rfl, ⟨[], passed, rfl, not_closesComment_nil, passes⟩, rfl,
        ends⟩
  | case11 opened position character others goesOn inductionHypothesis =>
      obtain ⟨passed, isRest, passes, rfl, ends⟩ := inductionHypothesis skipped
      subst isRest
      exact ⟨character :: passed, rfl, .blockComment_cons goesOn rfl passes, rfl, ends⟩

/-- Where a gap is at fault, a block comment is open. -/
theorem skipGap_error
    {part : GapPart} {position : Position} {text : List Char} {fault : LexFault}
    (skipped : skipGap part position text = .error fault) :
    (∃ passed body, text = passed ++ '/' :: '*' :: body ∧
        Passes part passed ('/' :: '*' :: body) ∧ ¬ ClosesComment body ∧
        fault = .openComment (position.afterAll passed)) ∨
      ∃ opened, part = .blockComment opened ∧ ¬ ClosesComment text ∧
        fault = .openComment opened := by
  fun_induction skipGap part position text with
  | case1 | case5 | case6 => cases skipped
  | case2 position others inductionHypothesis =>
      rcases inductionHypothesis skipped with
        ⟨passed, body, rfl, passes, notClosed, rfl⟩ | ⟨opened, isBlock, -⟩
      · exact Or.inl ⟨'/' :: '/' :: passed, body, rfl, passes.lineComment, notClosed, rfl⟩
      · cases isBlock
  | case3 position others inductionHypothesis =>
      rcases inductionHypothesis skipped with
        ⟨passed, body, rfl, passes, notClosed, rfl⟩ | ⟨opened, isBlock, notClosed, rfl⟩
      · exact Or.inl ⟨'/' :: '*' :: passed, body, rfl, passes.blockComment, notClosed, rfl⟩
      · cases isBlock
        exact Or.inl ⟨[], others, rfl, .none, notClosed, rfl⟩
  | case4 position character others _ _ separates inductionHypothesis =>
      rcases inductionHypothesis skipped with
        ⟨passed, body, rfl, passes, notClosed, rfl⟩ | ⟨opened, isBlock, -⟩
      · have isBlank := separatesTokens_iff.mp separates
        exact Or.inl ⟨character :: passed, body, rfl, Gap.more (.blank isBlank) passes,
          notClosed, rfl⟩
      · cases isBlock
  | case7 position others inductionHypothesis =>
      rcases inductionHypothesis skipped with
        ⟨passed, body, rfl, passes, notClosed, rfl⟩ | ⟨opened, isBlock, -⟩
      · exact Or.inl ⟨'\n' :: passed, body, rfl, .lineComment_newline passes, notClosed, rfl⟩
      · cases isBlock
  | case8 position character others notNewline inductionHypothesis =>
      rcases inductionHypothesis skipped with
        ⟨passed, body, rfl, passes, notClosed, rfl⟩ | ⟨opened, isBlock, -⟩
      · exact Or.inl ⟨character :: passed, body, rfl, passes.lineComment_cons notNewline,
          notClosed, rfl⟩
      · cases isBlock
  | case9 opened position =>
      cases skipped
      exact Or.inr ⟨opened, rfl, not_closesComment_nil, rfl⟩
  | case10 opened position others inductionHypothesis =>
      rcases inductionHypothesis skipped with
        ⟨passed, body, rfl, passes, notClosed, rfl⟩ | ⟨opened, isBlock, -⟩
      · exact Or.inl ⟨'*' :: '/' :: passed, body, rfl,
          ⟨[], passed, rfl, not_closesComment_nil, passes⟩, notClosed, rfl⟩
      · cases isBlock
  | case11 opened position character others goesOn inductionHypothesis =>
      rcases inductionHypothesis skipped with
        ⟨passed, body, isRest, passes, notClosed, rfl⟩ | ⟨_, isBlock, notClosed, rfl⟩
      · subst isRest
        exact Or.inl ⟨character :: passed, body, rfl, .blockComment_cons goesOn rfl passes,
          notClosed, rfl⟩
      · cases isBlock
        refine Or.inr ⟨opened, rfl, not_closesComment_cons ?_ notClosed, rfl⟩
        intro isStar next isNext isSlash
        cases others with
        | nil => simp at isNext
        | cons second further =>
            have secondEq : second = '/' := by simpa [isSlash] using isNext
            exact goesOn further isStar (by rw [secondEq])

end StructLang.Scan
