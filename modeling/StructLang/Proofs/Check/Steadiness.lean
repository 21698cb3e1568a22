import StructLang.Proofs.Check.Courses
import StructLang.Proofs.Scope.Links

/-!
# Courses that keep the passage to the outermost scope

A state nests its scopes if there is a passage from the innermost one to the outermost one. A
course is steady if all states on its way nest their scopes when the first one does, and if it
leaves all links as they were. The courses of expressions, declarations and statements are steady,
since the only scopes that they enter are new ones.
-/

namespace StructLang

open ScopeStore

namespace CheckState

/-- There is a passage from the innermost scope to the one that the state knows as the outermost
one. -/
def Nests (state : CheckState) : Prop :=
  ∃ links, state.scopes.Passage links ∧ links.getLast? = state.root?

/-- The outermost scope is as it was, and the scopes are left as they were. -/
structure Settles (before after : CheckState) : Prop where
  root : after.root? = before.root?
  scopes : before.scopes.Settles after.scopes

variable {before between after state : CheckState}

theorem Settles.refl
    (state : CheckState) : state.Settles state :=
  ⟨rfl, .refl _⟩

theorem Settles.trans
    (first : before.Settles between) (second : between.Settles after) : before.Settles after :=
  ⟨second.root.trans first.root, first.scopes.trans second.scopes⟩

theorem Nests.root_eq
    (nests : state.Nests) : state.root? = state.scopes.root? := by
  obtain ⟨links, passage, isRoot⟩ := nests
  exact isRoot.symm.trans passage.root

theorem Nests.of_settles
    (nests : before.Nests) (settles : before.Settles after) : after.Nests := by
  obtain ⟨links, passage, isRoot⟩ := nests
  exact ⟨links, passage.of_settles settles.scopes, isRoot.trans settles.root.symm⟩

/-- A new scope is entered. -/
theorem Nests.push_new
    (nests : state.Nests) :
    (state.withScopes ((state.scopes.create none).push state.scopes.fresh)).Nests := by
  obtain ⟨links, passage, isRoot⟩ := nests
  refine ⟨_, passage.push_new, ?_⟩
  rw [List.getLast?_cons_of_ne_nil passage.ne_nil]
  exact isRoot

end CheckState

namespace Course

/-! ## The states on the way -/

variable {alpha beta : Type}

/-- A course of a single act. -/
def IsAct : Course alpha → Prop
  | andThen _ _ | inside _ _ => False
  | _ => True

theorem Passes.of_act
    {act : Course alpha} {state point : CheckState} (isAct : act.IsAct)
    (passes : act.Passes state point) :
    point = state ∨ point = left act.run state := by
  cases passes with
  | starts => exact Or.inl rfl
  | ends => exact Or.inr rfl
  | first => exact isAct.elim
  | next => exact isAct.elim
  | inside => exact isAct.elim

theorem Passes.of_failed
    {course : Course alpha} {state final : CheckState} {failure : CheckFailure}
    (failed : course.run.run state = .error failure final) : course.Passes state final := by
  have isLeft : left course.run state = final := by rw [left, failed]
  rw [← isLeft]
  exact .ends course state

/-- On the way of two courses lie the states of the first one, and those of the second one. -/
theorem Passes.of_bind
    {first : Course alpha} {next : alpha → Course beta} {state point : CheckState}
    (passes : (first >>= next).Passes state point) :
    first.Passes state point ∨
      ∃ found reached, first.run.run state = .ok found reached ∧
        (next found).Passes reached point := by
  cases passes with
  | starts => exact Or.inl (.starts first state)
  | ends =>
      rcases left_bind first.run (fun found => (next found).run) state with
        ⟨failure, failed⟩ | ⟨found, reached, completed, isLeft⟩
      · exact Or.inl (.of_failed failed)
      · refine Or.inr ⟨found, reached, completed, ?_⟩
        change (next found).Passes reached
          (left (first.run >>= fun found => (next found).run) state)
        rw [isLeft]
        exact .ends (next found) reached
  | first passesFirst => exact Or.inl passesFirst
  | next completed passesNext => exact Or.inr ⟨_, _, completed, passesNext⟩

/-- On the way of a body that is run inside a scope lie the state before the scope is entered,
those of the body, and the state after the scope is left. -/
theorem Passes.of_inside
    {scope : ScopeId} {body : Course Unit} {state point : CheckState}
    (passes : (Course.inside scope body).Passes state point) :
    point = state ∨
      body.Passes (state.withScopes (state.scopes.push scope)) point ∨
        ∃ reached, body.run.run (state.withScopes (state.scopes.push scope)) = .ok () reached ∧
          point = reached.withScopes reached.scopes.pop := by
  cases passes with
  | starts => exact Or.inl rfl
  | ends =>
      let leave : Unit → Check Unit := fun _ => Check.modifyScopes (·.pop)
      rcases left_bind body.run leave (state.withScopes (state.scopes.push scope)) with
        ⟨failure, failed⟩ | ⟨_, reached, completed, isLeft⟩
      · exact Or.inr (Or.inl (.of_failed failed))
      · exact Or.inr (Or.inr ⟨reached, completed, isLeft⟩)
  | inside passesBody => exact Or.inr (Or.inl passesBody)

/-! ## Steady courses -/

/-- If the scopes are nested, they stay so on the whole way; and the links are left as they
were. -/
def Steady (course : Course alpha) : Prop :=
  ∀ state : CheckState,
    (state.Nests → ∀ point, course.Passes state point → point.Nests) ∧
      ∀ found final, course.run.run state = .ok found final → state.Settles final

theorem Steady.of_act
    {act : Course alpha} (isAct : act.IsAct)
    (settles : ∀ state : CheckState, state.Settles (left act.run state)) :
    act.Steady := by
  intro state
  constructor
  · intro nests point passes
    rcases passes.of_act isAct with rfl | rfl
    · exact nests
    · exact nests.of_settles (settles state)
  · intro found final completed
    have isLeft : left act.run state = final := by rw [left, completed]
    exact isLeft ▸ settles state

theorem Steady.bind
    {first : Course alpha} {next : alpha → Course beta} (steady : first.Steady)
    (steadyNext : ∀ found, (next found).Steady) :
    (first >>= next).Steady := by
  intro state
  constructor
  · intro nests point passes
    rcases passes.of_bind with passesFirst | ⟨found, reached, completed, passesNext⟩
    · exact (steady state).1 nests point passesFirst
    · have nestsStill := nests.of_settles ((steady state).2 found reached completed)
      exact (steadyNext found reached).1 nestsStill point passesNext
  · intro found final completed
    obtain ⟨value, reached, isFirst, isNext⟩ := of_bind_ok _ completed
    exact ((steady state).2 value reached isFirst).trans
      ((steadyNext value reached).2 found final isNext)

theorem steady_give
    (found : alpha) : (pure found : Course alpha).Steady :=
  .of_act trivial fun state => .refl state

theorem steady_fail
    (failure : CheckFailure) : (fail failure : Course alpha).Steady :=
  .of_act trivial fun state => .refl state

theorem steady_look : look.Steady :=
  .of_act trivial fun state => .refl state

/-- A change that does not see the scopes, nor changes which one is the outermost. -/
theorem steady_note
    {added : Note} (keepsRoot : ∀ state, (added.change state).root? = state.root?) :
    (note added).Steady := by
  refine .of_act trivial fun state => ⟨keepsRoot state, ?_⟩
  change state.scopes.Settles (added.change state).scopes
  rw [added.scopes_eq]
  exact .refl _

theorem steady_finding
    (finding : Finding) : (note (.finding finding)).Steady :=
  steady_note fun state => by cases finding <;> rfl

theorem steady_put
    (entry : Entry) : (put entry).Steady := by
  have isAct : (put entry).IsAct := trivial
  apply Steady.of_act isAct
  intro state
  rw [run_put, left, EStateM.run, putting]
  cases inserted : state.scopes.insert entry with
  | ok filled => exact ⟨rfl, .of_insert inserted⟩
  | error fault => exact .refl state

theorem steady_create
    (enclosing? : Option ScopeId) : (create enclosing?).Steady :=
  .of_act trivial fun state => ⟨rfl, .create state.scopes enclosing?⟩

/-- Inside a new scope a steady body is still steady. -/
theorem Steady.inNewScope
    {body : Course Unit} (steady : body.Steady) : (inNewScope body).Steady := by
  intro state
  constructor
  · intro nests point passes
    rcases passes.of_bind with passesCreate | ⟨scope, created, completed, passesInside⟩
    · exact (steady_create none state).1 nests point passesCreate
    cases completed
    have nestsInside := nests.push_new
    rcases passesInside.of_inside with rfl | passesBody | ⟨reached, isBody, rfl⟩
    · exact nests.of_settles ⟨rfl, .create _ none⟩
    · exact (steady _).1 nestsInside point passesBody
    · have settles := (steady _).2 () reached isBody
      exact nests.of_settles ⟨settles.root, settles.scopes.inNewScope⟩
  · intro found final completed
    obtain ⟨scope, created, isCreated, isInside⟩ := of_bind_ok _ completed
    cases isCreated
    obtain ⟨reached, isBody, rfl⟩ := of_inScope_ok isInside
    have settles := (steady _).2 () reached isBody
    exact ⟨settles.root, settles.scopes.inNewScope⟩

/-! ## Courses from one state -/

/-- From one state on, all states on the way nest their scopes. -/
def NestsFrom (course : Course alpha) (state : CheckState) : Prop :=
  ∀ point, course.Passes state point → point.Nests

theorem Steady.nestsFrom
    {course : Course alpha} {state : CheckState} (steady : course.Steady) (nests : state.Nests) :
    course.NestsFrom state :=
  (steady state).1 nests

namespace NestsFrom

theorem of_completed
    {course : Course alpha} {state final : CheckState} {found : alpha}
    (nestsFrom : course.NestsFrom state) (completed : course.run.run state = .ok found final) :
    final.Nests := by
  have isLeft : left course.run state = final := by rw [left, completed]
  exact nestsFrom final (isLeft ▸ .ends course state)

theorem bind
    {first : Course alpha} {next : alpha → Course beta} {state : CheckState}
    (nestsFrom : first.NestsFrom state)
    (nestsNext : ∀ found reached, first.run.run state = .ok found reached → reached.Nests →
      (next found).NestsFrom reached) :
    (first >>= next).NestsFrom state := by
  intro point passes
  rcases passes.of_bind with passesFirst | ⟨found, reached, completed, passesNext⟩
  · exact nestsFrom point passesFirst
  · exact nestsNext found reached completed (nestsFrom.of_completed completed) point passesNext

/-- A course that looks at the state goes on like the course that was told it. -/
theorem afterLook
    {next : CheckState → Course beta} {state : CheckState} (nests : state.Nests)
    (nestsNext : (next state).NestsFrom state) :
    (look >>= next).NestsFrom state := by
  refine (steady_look.nestsFrom nests).bind fun found reached completed _ => ?_
  cases completed
  exact nestsNext

theorem inside
    {scope : ScopeId} {body : Course Unit} {state : CheckState} (nests : state.Nests)
    (nestsBody : body.NestsFrom (state.withScopes (state.scopes.push scope)))
    (leaves : ∀ reached : CheckState,
      body.run.run (state.withScopes (state.scopes.push scope)) = .ok () reached →
        reached.Nests → (reached.withScopes reached.scopes.pop).Nests) :
    (Course.inside scope body).NestsFrom state := by
  intro point passes
  rcases passes.of_inside with rfl | passesBody | ⟨reached, completed, rfl⟩
  · exact nests
  · exact nestsBody point passesBody
  · exact leaves reached completed (nestsBody.of_completed completed)

end NestsFrom

/-! ## Single steps are steady -/

theorem steady_report
    (kind : DiagnosticKind) (address : Address) (position : Position) (names : List String) :
    (report kind address position names).Steady :=
  steady_finding (.complaint kind address position names)

theorem steady_settle
    (address : Address) (position : Position) (verdict : Verdict) :
    (settle address position verdict).Steady := by
  have records : (do
      note (.finding (.typed address verdict.ty))
      return verdict.ty).Steady :=
    (steady_finding _).bind fun _ => steady_give _
  cases verdict with
  | type found => exact records
  | fault kind names => exact (steady_report kind address position names).bind fun _ => records

theorem steady_nextRename : nextRename.Steady :=
  (steady_note fun _ => rfl).bind fun _ => steady_look.bind fun state => steady_give state.renames

theorem steady_tryInsert
    (entry : Entry) : (tryInsert entry).Steady := by
  apply (steady_put entry).bind
  intro result
  cases result with
  | ok => exact steady_give true
  | error fault =>
      cases fault with
      | taken => exact steady_give false
      | noScope => exact steady_fail _

theorem steady_insertRenamed
    (address : Address) (name : String) (entry : Entry) :
    (insertRenamed address name entry).Steady := by
  apply (steady_note fun _ => rfl).bind
  intro _
  apply (steady_put _).bind
  intro result
  cases result with
  | ok => exact steady_give ()
  | error fault => exact steady_fail _

theorem Steady.discard
    {course : Course alpha} (steady : course.Steady) : (discard course).Steady :=
  steady.bind fun _ => steady_give ()

theorem steady_forM
    {items : List alpha} {body : alpha → Course Unit} (steady : ∀ item, (body item).Steady) :
    (items.forM body).Steady := by
  induction items with
  | nil => exact steady_give ()
  | cons head tail inductionHypothesis => exact (steady head).bind fun _ => inductionHypothesis

end Course

open Course

/-! ## Expressions and statements are steady -/

namespace Expr

mutual

theorem steady_course
    (address : Address) : (expression : Expr) → (expression.course address).Steady
  | .integer _ position => steady_settle address position _
  | .boolean _ position => steady_settle address position _
  | .name _ position => steady_look.bind fun _ => steady_settle address position _
  | .group items position =>
      (steady_courseAll address 0 items).bind fun _ => steady_settle address position _
  | .binary left operator right position => by
      apply (steady_course (0 :: address) left).bind
      intro leftType
      apply (steady_course (1 :: address) right).bind
      intro rightType
      cases Rule.binary? operator leftType rightType with
      | some verdict => exact steady_settle address position verdict
      | none => exact steady_fail _
  | .unary operator operand position => by
      apply (steady_course (0 :: address) operand).bind
      intro operandType
      cases Rule.unary? operator operandType with
      | some verdict => exact steady_settle address position verdict
      | none => exact steady_fail _
  | .index list place position =>
      (steady_course (0 :: address) list).bind fun _ =>
        (steady_course (1 :: address) place).bind fun _ => steady_settle address position _
  | .member owner _ position =>
      (steady_course (0 :: address) owner).bind fun _ =>
        steady_look.bind fun _ => steady_settle address position _
  | .size list position =>
      (steady_course (0 :: address) list).bind fun _ => steady_settle address position _
  | .append list element position =>
      (steady_course (0 :: address) list).bind fun _ =>
        (steady_course (1 :: address) element).bind fun _ => steady_settle address position _
  | .call callee arguments position =>
      (steady_course (0 :: address) callee).bind fun _ =>
        (steady_courseAll (1 :: address) 0 arguments).bind fun _ =>
          steady_settle address position _
  | .stray _ => steady_fail _
  | .absent => steady_fail _

theorem steady_courseAll
    (address : Address) (index : Nat) :
    (expressions : List Expr) → (courseAll address index expressions).Steady
  | [] => steady_give []
  | head :: tail =>
      (steady_course (index :: address) head).bind fun headType =>
        (steady_courseAll address (index + 1) tail).bind fun tailTypes =>
          steady_give (headType :: tailTypes)

end

end Expr

namespace VariableDecl

theorem steady_course
    (address : Address) (declaration : VariableDecl) : (declaration.course address).Steady := by
  have complains (kind : DiagnosticKind) :
      (report kind address declaration.position [declaration.name]).Steady :=
    steady_report kind address declaration.position [declaration.name]
  have puts : (do
      if !(← tryInsert (.ofVariable declaration.name declaration.type)) then
        report .duplicateVariable address declaration.position [declaration.name]).Steady := by
    apply (steady_tryInsert _).bind
    intro isNew
    cases isNew with
    | true => exact steady_give ()
    | false => exact complains .duplicateVariable
  apply steady_look.bind
  intro state
  have putsToo : (do
      if (state.scopes.lookupRoot? ⟨.functions, declaration.name⟩).isSome then
        report .variableFunctionConflict address declaration.position [declaration.name]
      if !(← tryInsert (.ofVariable declaration.name declaration.type)) then
        report .duplicateVariable address declaration.position [declaration.name]).Steady := by
    split
    · exact (complains .variableFunctionConflict).bind fun _ => puts
    · exact puts
  dsimp only
  split
  · exact (complains .variableStructConflict).bind fun _ => putsToo
  · exact putsToo

theorem steady_fieldCourse
    (address : Address) (declaration : VariableDecl) :
    (declaration.fieldCourse address).Steady := by
  apply steady_look.bind
  intro state
  split
  · exact (steady_finding _).bind fun _ => steady_course address declaration
  · exact steady_course address declaration

theorem steady_courseAll
    (address : Address) (index : Nat) (declarations : List VariableDecl) :
    (courseAll address index declarations).Steady := by
  induction declarations generalizing index with
  | nil => exact steady_give ()
  | cons head tail inductionHypothesis =>
      exact (steady_course _ head).bind fun _ => inductionHypothesis (index + 1)

theorem steady_fieldCourses
    (address : Address) (index : Nat) (fields : List VariableDecl) :
    (fieldCourses address index fields).Steady := by
  induction fields generalizing index with
  | nil => exact steady_give ()
  | cons head tail inductionHypothesis =>
      exact (steady_fieldCourse _ head).bind fun _ => inductionHypothesis (index + 1)

end VariableDecl

namespace Stmt

theorem steady_valueCourse
    (address : Address) (position : Position) (expression : Expr)
    (fault? : Ty → Option DiagnosticKind) :
    (valueCourse address position expression fault?).Steady := by
  apply (expression.steady_course (0 :: address)).bind
  intro type
  cases fault? type with
  | some kind => exact steady_report kind address position []
  | none => exact steady_give ()

mutual

theorem steady_course
    (address : Address) : (statement : Stmt) → (statement.course address).Steady
  | .absent => steady_give ()
  | .block statements _ => steady_courseAll address 0 statements
  | .declare declared _ => VariableDecl.steady_courseAll address 0 declared
  | .assign target value position =>
      (target.steady_course (0 :: address)).bind fun _ =>
        (value.steady_course (1 :: address)).bind fun _ =>
          (steady_settle address position _).discard
  | .branch condition thenBody elseBody position => by
      have steadyElse := steady_course (2 :: address) elseBody
      rw [course.eq_def]
      apply Steady.bind
      · apply Steady.inNewScope
        exact (steady_valueCourse address position condition _).bind fun _ =>
          steady_course (1 :: address) thenBody
      · intro _
        split
        · exact steady_give ()
        · exact steadyElse.inNewScope
  | .loop condition body position =>
      (steady_valueCourse address position condition _).bind fun _ =>
        steady_course (1 :: address) body
  | .display argument position => steady_valueCourse address position argument _
  | .append expression _ => (expression.steady_course (0 :: address)).discard
  | .size expression _ => (expression.steady_course (0 :: address)).discard
  | .call expression _ => (expression.steady_course (0 :: address)).discard
  | .giveBack none _ => steady_give ()
  | .giveBack (some value) _ => (value.steady_course (0 :: address)).discard
  | .accessor .. => steady_fail _
  | .stray _ => steady_fail _

theorem steady_courseAll
    (address : Address) (index : Nat) :
    (statements : List Stmt) → (courseAll address index statements).Steady
  | [] => steady_give ()
  | head :: tail =>
      (steady_course (index :: address) head).bind fun _ =>
        steady_courseAll address (index + 1) tail

end

end Stmt

/-! ## Declarations are steady -/

theorem steady_declareCourse
    (kind : DiagnosticKind) (address : Address) (position : Position) (entry : Entry) :
    (declareCourse kind address position entry).Steady := by
  apply (steady_tryInsert entry).bind
  intro isNew
  cases isNew with
  | true => exact steady_give entry.name
  | false =>
      apply (steady_report kind address position [entry.name]).bind
      intro _
      apply steady_nextRename.bind
      intro number
      exact (steady_insertRenamed address _ entry).bind fun _ => steady_give _

theorem StructDecl.steady_declareCourses
    (index : Nat) (structs : List StructDecl) : (declareCourses index structs).Steady := by
  induction structs generalizing index with
  | nil => exact steady_give ()
  | cons head tail inductionHypothesis =>
      have steadyHead : (head.declareCourse (Program.structAddress index)).Steady :=
        (steady_create none).bind fun scope =>
          (steady_declareCourse _ _ head.position _).bind fun name => steady_finding _
      exact steadyHead.bind fun _ => inductionHypothesis (index + 1)

theorem FunctionDecl.steady_declareCourses
    (index : Nat) (functions : List FunctionDecl) :
    (declareCourses index functions).Steady := by
  induction functions generalizing index with
  | nil => exact steady_give ()
  | cons head tail inductionHypothesis =>
      have puts : (do
          let entry := Entry.ofFunction head.name head.result head.parameters
            (← create none) (some (Program.functionAddress index))
          discard (StructLang.declareCourse .duplicateFunction (Program.functionAddress index)
            head.position entry)).Steady :=
        (steady_create none).bind fun scope =>
          (steady_declareCourse _ _ head.position _).discard
      have steadyHead : (head.declareCourse (Program.functionAddress index)).Steady := by
        apply steady_look.bind
        intro state
        split
        · exact (steady_report _ _ _ _).bind fun _ => puts
        · exact puts
      exact steadyHead.bind fun _ => inductionHypothesis (index + 1)

namespace Stmt

theorem steady_declareCourse
    (address : Address) (member : Stmt) : (member.declareCourse address).Steady := by
  cases member with
  | declare declared => exact VariableDecl.steady_fieldCourses address 0 declared
  | accessor name type parameters field =>
      apply (field.steady_fieldCourse (1 :: address)).bind
      intro _
      apply (steady_create none).bind
      intro scope
      apply (steady_tryInsert _).bind
      intro isNew
      cases isNew with
      | true => exact steady_give ()
      | false => exact steady_nextRename.bind fun number => steady_insertRenamed address _ _
  | _ => exact steady_fail _

theorem steady_declareCourses
    (address : Address) (index : Nat) (members : List Stmt) :
    (declareCourses address index members).Steady := by
  induction members generalizing index with
  | nil => exact steady_give ()
  | cons head tail inductionHypothesis =>
      exact (steady_declareCourse _ head).bind fun _ => inductionHypothesis (index + 1)

end Stmt

theorem FunctionDecl.steady_resultCourse
    (address : Address) (declaration : FunctionDecl) :
    (declaration.resultCourse address).Steady := by
  rw [resultCourse]
  split
  · apply steady_look.bind
    intro state
    split
    · exact (steady_report _ _ _ _).bind fun _ => steady_finding _
    · exact steady_give ()
  · exact steady_give ()

theorem Program.steady_containmentCourse
    (program : Program) : program.containmentCourse.Steady := by
  apply steady_look.bind
  intro state
  apply steady_forM
  intro name
  split
  · exact steady_report _ _ _ _
  · exact steady_finding _

end StructLang
