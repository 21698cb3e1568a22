import StructLang.Program.Session
import StructLang.Proofs.Check.Courses
import StructLang.Proofs.Check.Programs

/-!
# Scopes are left as they were found

A visit that completes leaves the stack of scopes as it found it, from whatever state it started,
also from one that an earlier check left behind when it failed. A whole check that completes ends
outside of all scopes and outside of all structs. What it ends with does not depend on what was
checked before.
-/

namespace StructLang

open Check

/-- A step that completes leaves the stack of scopes as it found it. -/
def LeavesStack (step : Check Unit) : Prop :=
  ∀ state final, step.run state = .ok () final → final.scopes.stack = state.scopes.stack

theorem Course.leavesStack
    (course : Course Unit) : LeavesStack course.run :=
  fun _ _ completed => course.stack_eq completed

/-- The visits of which a check is made: those of statements, of functions, of the main body, of
structs, of the bodies of structs, and of members, which are declared before they are bound. -/
inductive IsVisit : Check Unit → Prop
  | statement (address : Address) (statement : Stmt) : IsVisit (statement.check address)
  | function (address : Address) (declaration : FunctionDecl) : IsVisit (declaration.check address)
  | main (declaration : MainDecl) : IsVisit declaration.check
  | struct (address : Address) (declaration : StructDecl) : IsVisit (declaration.check address)
  | structBody (scope : ScopeId) (address : Address) (members : List Stmt) :
      IsVisit (inScope scope do
        Stmt.declareMembers address 0 members
        Stmt.bindMembers address 0 members)
  | declaredMember (address : Address) (member : Stmt) : IsVisit (member.declareMember address)
  | boundMember (address : Address) (member : Stmt) : IsVisit (member.bindMember address)

namespace IsVisit

theorem exists_course
    {step : Check Unit} (isVisit : IsVisit step) : ∃ course : Course Unit, course.run = step := by
  cases isVisit with
  | statement address statement => exact ⟨_, statement.run_course address⟩
  | function address declaration => exact ⟨_, declaration.run_course address⟩
  | main declaration => exact ⟨_, declaration.run_course⟩
  | struct address declaration => exact ⟨_, declaration.run_course address⟩
  | structBody scope address members =>
      let body : Course Unit := do
        Stmt.declareCourses address 0 members
        Stmt.bindCourses address 0 members
      have run_body : body.run = (do
          Stmt.declareMembers address 0 members
          Stmt.bindMembers address 0 members) := by
        simp only [body, Course.run_bind, Stmt.run_declareCourses, Stmt.run_bindCourses]
      exact ⟨.inside scope body, by rw [Course.run_inside, run_body]⟩
  | declaredMember address member => exact ⟨_, member.run_declareCourse address⟩
  | boundMember address member => exact ⟨_, member.run_bindCourse address⟩

theorem leavesStack
    {step : Check Unit} (isVisit : IsVisit step) : LeavesStack step := by
  obtain ⟨course, rfl⟩ := isVisit.exists_course
  exact course.leavesStack

end IsVisit

namespace Program

/-- A check that completes has left all scopes and all structs. -/
theorem left_of_completed
    {program : Program} {state final : CheckState}
    (completed : program.check.run state = .ok () final) :
    final.scopes.depth = 0 ∧ final.currentStruct? = none := by
  obtain ⟨store, rfl, finished⟩ := (ends_check program).of_completed completed
  constructor
  · simp [ScopeStore.depth, ScopeStore.pop, finished.stack]
  · exact CheckState.notingAll_currentStruct? started program.findings

/-- The first thing that a check does is to forget what was found before. -/
theorem run_check_eq
    (program : Program) (state : CheckState) :
    program.check.run state = program.checked := rfl

end Program

/-- Every visit that completes leaves the stack as it found it, a check that completes ends
outside of all scopes and structs, and every check has the outcome that it would have as the first
one of its session. -/
theorem scopes_left_and_checks_independent :
    (∀ step, IsVisit step → LeavesStack step) ∧
      (∀ program : Program, ∀ state final, program.check.run state = .ok () final →
        final.scopes.depth = 0 ∧ final.currentStruct? = none) ∧
      ∀ (program : Program) (session : Session),
        program.check.run session.state = program.checked ∧
          session.check program = Session.initial.check program := by
  refine ⟨?_, ?_, ?_⟩
  · intro step isVisit
    exact isVisit.leavesStack
  · intro program state final completed
    exact Program.left_of_completed completed
  · intro program session
    have fromHere := program.run_check_eq session.state
    have fromStart := program.run_check_eq Session.initial.state
    constructor
    · exact fromHere
    · rw [Session.check, Session.check, fromHere, fromStart]

end StructLang
