import StructLang.Proofs.Cursor.Expressions
import StructLang.Proofs.Cursor.Statements
import StructLang.Proofs.Cursor.Types

/-!
# Plans for declarations and programs

- `Tape.followsTask` : the plan of every task follows its reading.
-/

namespace StructLang.Cursor.Tape

open Reader

variable {tape : Tape} {left : List Token} {task : Task} {start : Nat}

/-! ## Members of structs -/

theorem followsTask_accessorBlocks
    {blocks : AccessorBlocks} (below : tape.FollowsBelow (.accessorBlocks blocks) left.length) :
    tape.FollowsTask (.accessorBlocks blocks) left := by
  change tape.Follows _ _ _ (Plan.accessorBlocks blocks) (readAccessorBlocks _ _ _)
  rw [readAccessorBlocks.eq_def]
  refine .look ?_
  match left with
  | [] =>
      rw [next, if_pos (Or.inr tape.isEnd)]
      exact .value
  | first :: others =>
      refine .of_cons fun isThere => ?_
      have noEnd := tape.noEnd first isThere
      have isFewer : others.length < (first :: others).length := Nat.lt_succ_self _
      rw [next]
      dsimp only
      by_cases isBrace : first.kind = .rightBrace
      · rw [if_pos isBrace, if_pos (Or.inl isBrace)]
        exact .value
      rw [if_neg isBrace, if_neg (not_or.mpr ⟨isBrace, noEnd⟩)]
      by_cases isSet : first.kind = .setWord ∧ blocks.setBody?.isNone
      · rw [if_pos isSet, if_pos isSet]
        refine .take ?_
        refine (below.ask .block (.inl isFewer)).bind fun _ rest isRest => ?_
        refine (below.ask (.accessorBlocks _) (.inl ?_)).last fun _ _ _ => .value
        exact Nat.lt_trans isRest isFewer
      rw [if_neg isSet, if_neg isSet]
      by_cases isGet : first.kind = .getWord ∧ blocks.getBody?.isNone
      · rw [if_pos isGet, if_pos isGet]
        refine .take ?_
        refine (below.ask .block (.inl isFewer)).bind fun _ rest isRest => ?_
        refine (below.ask (.accessorBlocks _) (.inl ?_)).last fun _ _ _ => .value
        exact Nat.lt_trans isRest isFewer
      rw [if_neg isGet, if_neg isGet]
      exact .fault

theorem followsTask_accessor
    {fieldType : Ty} {name : Token} {position : Position}
    (below : tape.FollowsBelow (.accessor fieldType name position) left.length) :
    tape.FollowsTask (.accessor fieldType name position) left := by
  change tape.Follows _ _ _ (Plan.accessor fieldType name position) (readAccessor _ _ _ _ _)
  refine (below.ask .parameters (.inr ⟨rfl, Nat.lt_succ_self _⟩)).bind fun _ opened isOpened => ?_
  refine (Follows.expect (by decide) opened).bind fun _ inner isInner => ?_
  have isFewer := Nat.lt_trans isInner isOpened
  refine (below.ask (.accessorBlocks _) (.inl isFewer)).bind fun blocks closed _ => ?_
  refine (Follows.expect (by decide) closed).bind fun _ rest _ => ?_
  dsimp only
  cases blocks.setBody? with
  | none =>
      refine .look ?_
      exact .fault
  | some setBody =>
      cases blocks.getBody? with
      | none =>
          refine .look ?_
          exact .fault
      | some getBody => exact .value

theorem followsTask_member
    (below : tape.FollowsBelow .member left.length) : tape.FollowsTask .member left := by
  change tape.Follows _ _ _ Plan.member (readMember _ _)
  rw [readMember]
  refine .look ?_
  split
  · refine (below.ask .type (.inr ⟨rfl, by decide⟩)).bind fun type typed isTyped => ?_
    refine (Follows.expect (by decide) typed).bind fun name named isNamed => ?_
    have isFewer := Nat.lt_trans isNamed isTyped
    refine .look ?_
    dsimp only
    cases isAccessor : startsWith .leftParen named with
    | true =>
        rw [if_pos rfl, if_pos ((Follows.next_kind_iff (by decide)).mpr isAccessor)]
        exact (below.ask (.accessor type name _) (.inl isFewer)).last fun _ _ _ => .value
    | false =>
        have noAccessor := Bool.eq_false_iff.mp isAccessor
        rw [if_neg Bool.false_ne_true,
          if_neg (noAccessor ∘ (Follows.next_kind_iff (by decide)).mp)]
        refine (follows_namesAfter below isFewer).bind fun _ _ _ => ?_
        exact .value
  · exact .fault

theorem followsTask_members
    (below : tape.FollowsBelow .members left.length) : tape.FollowsTask .members left := by
  change tape.Follows _ _ _ Plan.members (readMembers _ _)
  rw [readMembers_eq]
  exact .upToBrace (below.ask .member (.inr ⟨rfl, by decide⟩))
    fun _ isFewer => below.ask .members (.inl isFewer)

/-! ## Declarations -/

theorem followsTask_struct
    (below : tape.FollowsBelow .struct left.length) : tape.FollowsTask .struct left := by
  change tape.Follows _ _ _ Plan.struct (behindWord _ _ _ _)
  refine (Follows.expect (by decide) left).bind fun word others isOthers => ?_
  simp only [readStruct, bind_assoc, pure_bind]
  refine (Follows.expect (by decide) others).bind fun _ named isNamed => ?_
  refine (Follows.expect (by decide) named).bind fun _ opened isOpened => ?_
  refine (below.ask .members (.inl ?_)).bind fun _ closed _ => ?_
  · exact length_lt_of_three isOthers isNamed isOpened
  refine (Follows.expect (by decide) closed).bind fun _ _ _ => ?_
  exact .value

theorem followsTask_function
    (below : tape.FollowsBelow .function left.length) : tape.FollowsTask .function left := by
  change tape.Follows _ _ _ Plan.function (behindWord _ _ _ _)
  refine (Follows.expect (by decide) left).bind fun word others isOthers => ?_
  simp only [readFunction, bind_assoc, pure_bind]
  refine (Follows.expect (by decide) others).bind fun _ named isNamed => ?_
  have isFewer := Nat.lt_trans isNamed isOthers
  refine (below.ask .parameters (.inl isFewer)).bind fun _ typed isTyped => ?_
  refine (below.ask .type (.inl (Nat.lt_trans isTyped isFewer))).bind fun _ opened isOpened => ?_
  refine (below.ask .block (.inl ?_)).bind fun _ _ _ => ?_
  · exact length_lt_of_three isFewer isTyped isOpened
  exact .value

theorem followsTask_main
    (below : tape.FollowsBelow .main left.length) : tape.FollowsTask .main left := by
  change tape.Follows _ _ _ Plan.main (behindWord _ _ _ _)
  refine (Follows.expect (by decide) left).bind fun word others isOthers => ?_
  simp only [readMain, bind_assoc, pure_bind]
  refine (below.ask .block (.inl isOthers)).bind fun _ _ _ => ?_
  exact .value

/-! ## Programs -/

/-- One more declaration, and the declarations behind it. -/
theorem follows_declared
    {declared : Program} {alpha : Type} {plan : Plan alpha} {word : TokenKind} {first : Token}
    {others : List Token} {read : Position → (rest : List Token) → Reading alpha rest.length}
    {grow : alpha → Program}
    (below : tape.FollowsBelow (.declarations declared) (first :: others).length)
    (follows : tape.Follows (.declarations declared) (first :: others).length (first :: others)
      plan (behindWord tape.finish word (first :: others) read))
    (isWord : first.kind = word) :
    tape.Follows (.declarations declared) (first :: others).length (first :: others)
      (plan >>= fun declaration => Plan.ask (.declarations (grow declaration)))
      (wholly (read first.position others >>= fun parsed =>
        Program.readDeclarations tape.finish (grow parsed.value) parsed.rest)
          (first :: others)) := by
  have isSame : wholly (read first.position others >>= fun parsed =>
        Program.readDeclarations tape.finish (grow parsed.value) parsed.rest) (first :: others) =
      behindWord tape.finish word (first :: others) read >>= fun parsed =>
        wholly (Program.readDeclarations tape.finish (grow parsed.value) parsed.rest)
          parsed.rest >>= fun last =>
            .ok ⟨last.value, last.rest,
              Nat.lt_trans last.rest_lt (Nat.succ_lt_succ parsed.rest_lt)⟩ := by
    rw [behindWord_cons isWord]
    cases read first.position others with
    | error failure => rfl
    | ok parsed =>
        change wholly (Program.readDeclarations _ (grow parsed.value) parsed.rest) _ =
          wholly (Program.readDeclarations _ (grow parsed.value) parsed.rest) _ >>= _
        cases Program.readDeclarations tape.finish (grow parsed.value) parsed.rest <;> rfl
  rw [isSame]
  refine follows.bind fun declaration rest isFewer => ?_
  exact (below.ask (.declarations (grow declaration)) (.inl isFewer)).last fun _ _ _ => .value

theorem followsTask_declarations
    {declared : Program} (below : tape.FollowsBelow (.declarations declared) left.length) :
    tape.FollowsTask (.declarations declared) left := by
  change tape.Follows _ _ _ (Plan.declarations declared) (wholly _ _)
  rw [Program.readDeclarations.eq_def]
  refine .look ?_
  match left with
  | [] =>
      rw [next, if_pos tape.isEnd]
      exact .value
  | first :: others =>
      refine .of_cons fun isThere => ?_
      have noEnd := tape.noEnd first isThere
      rw [next, if_neg noEnd]
      dsimp only
      by_cases isLast : declared.main?.isSome
      · rw [if_pos isLast, if_pos isLast]
        exact .fault
      rw [if_neg isLast, if_neg isLast]
      have isBelow : Task.struct.rank < (Task.declarations declared).rank := Nat.lt_succ_self _
      by_cases isStruct : first.kind = .structWord
      · simp only [isStruct, ↓reduceIte]
        exact follows_declared below (below.ask .struct (.inr ⟨rfl, isBelow⟩)) isStruct
      rw [if_neg isStruct]
      by_cases isFunction : first.kind = .funcWord
      · simp only [isFunction, ↓reduceIte]
        exact follows_declared below (below.ask .function (.inr ⟨rfl, isBelow⟩)) isFunction
      rw [if_neg isFunction]
      by_cases isMain : first.kind = .mainWord
      · simp only [isMain, ↓reduceIte]
        exact follows_declared below (below.ask .main (.inr ⟨rfl, isBelow⟩)) isMain
      rw [if_neg isMain]
      split
      case h_1 | h_2 | h_3 => contradiction
      case h_4 => exact .fault

theorem followsTask_program
    (below : tape.FollowsBelow .program left.length) : tape.FollowsTask .program left := by
  change tape.Follows _ _ _ Plan.program (wholly _ _)
  have isSame : wholly (Program.read tape.finish left) left =
      wholly (Program.readDeclarations tape.finish ⟨[], [], none, (next tape.finish left).position⟩
        left) left >>= fun parsed =>
          if parsed.value.main?.isNone then .error (.grammar (.missingMain tape.finish.position))
          else .ok parsed := by
    rw [Program.read]
    cases Program.readDeclarations tape.finish _ left with
    | error failure => rfl
    | ok program =>
        change wholly (if program.main?.isNone then _ else _) left =
          if program.main?.isNone then _ else _
        split <;> rfl
  rw [isSame]
  refine .look ?_
  refine (below.ask (.declarations _) (.inr ⟨rfl, Nat.lt_succ_self _⟩)).bind_of_eq
    fun program rest _ isDone => ?_
  -- Only at the end are there no more declarations, so a missing main body is missed there.
  obtain rfl : rest = [] := rest_eq_nil_of_wholly isDone
  dsimp only
  split
  · refine .look ?_
    exact .fault
  · exact .value

/-! ## All tasks -/

/-- The plan of a task follows its reading if those of all tasks do that it may ask for. -/
theorem followsTask_of_below
    (below : tape.FollowsBelow task left.length) : tape.FollowsTask task left := by
  cases task with
  | type => exact followsTask_type below
  | functionPointer => exact followsTask_functionPointer below
  | moreTypes => exact followsTask_moreTypes below
  | parameters => exact followsTask_parameters below
  | parameter => exact followsTask_parameter below
  | moreParameters => exact followsTask_moreParameters below
  | expression => exact followsTask_expression below
  | level => exact followsTask_level below
  | operations => exact followsTask_operations below
  | unary => exact followsTask_unary below
  | suffixed => exact followsTask_suffixed below
  | suffixes => exact followsTask_suffixes below
  | afterDot => exact followsTask_afterDot below
  | moreExpressions => exact followsTask_moreExpressions below
  | primary => exact followsTask_primary below
  | block => exact followsTask_block below
  | statements => exact followsTask_statements below
  | statement => exact followsTask_statement below
  | declaration => exact followsTask_declaration below
  | moreNames => exact followsTask_moreNames below
  | branch => exact followsTask_branch below
  | loop => exact followsTask_loop below
  | display => exact followsTask_display below
  | giveBack => exact followsTask_giveBack below
  | simple => exact followsTask_simple below
  | struct => exact followsTask_struct below
  | members => exact followsTask_members below
  | member => exact followsTask_member below
  | accessor => exact followsTask_accessor below
  | accessorBlocks => exact followsTask_accessorBlocks below
  | function => exact followsTask_function below
  | main => exact followsTask_main below
  | declarations => exact followsTask_declarations below
  | program => exact followsTask_program below

/-- The plan of every task follows its reading: by induction on the tokens that are left, and on the
rank where as many are left. -/
theorem followsTask
    (tape : Tape) (task : Task) (left : List Token) : tape.FollowsTask task left := by
  refine followsTask_of_below fun asked others isBelow => ?_
  exact followsTask tape asked others
termination_by (left.length, task.rank)
decreasing_by
  rcases isBelow with isFewer | ⟨isSame, isLower⟩
  · exact .left _ _ isFewer
  · rw [isSame]
    exact .right _ isLower

end StructLang.Cursor.Tape
