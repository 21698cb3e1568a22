import StructLang.Proofs.Check.Courses

/-!
# Which scopes the steps of a check stand in

A step of a check finds some scopes on the stack and leaves some. A move says which ones, and that
on the way nothing is looked up and nothing is put in while the stack is empty. Every step below
the outermost scope of a program is a move that ends where it began.

- `stack_eq` : a move that completes leaves just the stack it says.
- `Course.moves` : what has a course moves, from any stack to the same one.
- `Program.moves_check` : the whole check is a move, from any stack to the empty one.
-/

namespace StructLang

namespace Check

/-- A step leads from one stack of scopes to another. The state is looked at, and entries are put
in, only while there is a scope on the stack; all else that is done neither sees nor changes what
the scopes hold. -/
inductive Moves : {alpha : Type} → List ScopeId → Check alpha → List ScopeId → Prop
  | pure {alpha : Type} {stack : List ScopeId} (found : alpha) :
      Moves stack (Pure.pure found : Check alpha) stack
  | throw {alpha : Type} {stack after : List ScopeId} (failure : CheckFailure) :
      Moves stack (MonadExcept.throw failure : Check alpha) after
  | bind {alpha beta : Type} {stack between after : List ScopeId} {first : Check alpha}
      {next : alpha → Check beta} :
      Moves stack first between → (∀ found, Moves between (next found) after) →
        Moves stack (first >>= next) after
  | look {alpha : Type} {stack after : List ScopeId} {next : CheckState → Check alpha} :
      stack ≠ [] →
        (∀ state : CheckState, state.scopes.stack = stack → Moves stack (next state) after) →
          Moves stack (MonadState.get >>= next) after
  | fill {stack : List ScopeId} {store : ScopeStore} :
      stack ≠ [] → store.stack = stack →
        Moves stack (modify fun state => { state with scopes := store }) stack
  | note {stack : List ScopeId} {change : CheckState → CheckState} :
      (∀ state store, change (state.withScopes store) = (change state).withScopes store) →
        Moves stack (modify change) stack
  | create {stack : List ScopeId} (enclosing? : Option ScopeId) :
      Moves stack (newScope enclosing?) stack
  | enclose {stack : List ScopeId} (scope outer : ScopeId) :
      Moves stack (modifyScopes (·.enclose scope outer)) stack
  | enter {stack : List ScopeId} (scope : ScopeId) :
      Moves stack (modifyScopes (·.push scope)) (scope :: stack)
  | leave {scope : ScopeId} {stack : List ScopeId} :
      Moves (scope :: stack) (modifyScopes (·.pop)) stack
  | forget {stack : List ScopeId} : Moves stack reset []

theorem Moves.stack_eq
    {alpha : Type} {before after : List ScopeId} {step : Check alpha}
    (moves : Moves before step after) {state final : CheckState} {found : alpha}
    (starts : state.scopes.stack = before) (completed : step.run state = .ok found final) :
    final.scopes.stack = after := by
  induction moves generalizing state final with
  | pure =>
      cases completed
      exact starts
  | throw => cases completed
  | bind _ _ firstHypothesis nextHypothesis =>
      obtain ⟨value, reached, isFirst, isNext⟩ := Course.of_bind_ok _ completed
      exact nextHypothesis value (firstHypothesis starts isFirst) isNext
  | look _ _ inductionHypothesis => exact inductionHypothesis state starts starts completed
  | fill _ isStack =>
      cases completed
      exact isStack
  | note unseen =>
      cases completed
      exact (congrArg ScopeStore.stack (Note.scopes_eq ⟨_, unseen⟩ state)).trans starts
  | create | enclose =>
      cases completed
      exact starts
  | enter scope =>
      cases completed
      exact congrArg (scope :: ·) starts
  | leave =>
      cases completed
      exact congrArg List.tail starts
  | forget =>
      cases completed
      rfl

theorem moves_inScope
    {stack : List ScopeId} {step : Check Unit} (scope : ScopeId)
    (moves : Moves (scope :: stack) step (scope :: stack)) :
    Moves stack (inScope scope step) stack :=
  .bind (.enter scope) fun _ => .bind moves fun _ => .leave

theorem putting_eq
    (entry : Entry) :
    Course.putting entry = (do
      match (← get).scopes.insert entry with
      | .ok filled =>
          modify fun state => { state with scopes := filled }
          return .ok ()
      | .error fault => return .error fault) := by
  funext state
  have isLook : ∀ next : CheckState → Check (Except ScopeFault Unit),
      (get >>= next) state = next state state := fun _ => rfl
  rw [isLook, Course.putting]
  cases state.scopes.insert entry <;> rfl

theorem moves_putting
    {stack : List ScopeId} (notEmpty : stack ≠ []) (entry : Entry) :
    Moves stack (Course.putting entry) stack := by
  rw [putting_eq]
  apply Moves.look notEmpty
  intro state isStack
  cases inserted : state.scopes.insert entry with
  | ok filled =>
      have sameStack : filled.stack = stack := (Course.stack_of_insert inserted).trans isStack
      exact .bind (.fill notEmpty sameStack) fun _ => .pure _
  | error fault => exact .pure _

end Check

open Check

/-- What has a course finds a scope whenever it looks something up or puts something in, if there
is one in the beginning. -/
theorem Course.moves
    {alpha : Type} {stack : List ScopeId} (course : Course alpha) (notEmpty : stack ≠ []) :
    Moves stack course.run stack := by
  induction course generalizing stack with
  | give found => exact .pure found
  | fail failure => exact .throw failure
  | andThen first next firstHypothesis nextHypothesis =>
      exact .bind (firstHypothesis notEmpty) fun found => nextHypothesis found notEmpty
  | look =>
      change Moves stack (MonadState.get >>= fun state => pure state) stack
      exact .look notEmpty fun state _ => .pure state
  | note added => exact .note added.unseen
  | put entry => exact moves_putting notEmpty entry
  | create enclosing? => exact .create enclosing?
  | enclose scope outer => exact .enclose scope outer
  | inside scope body inductionHypothesis =>
      exact moves_inScope scope (inductionHypothesis (List.cons_ne_nil scope stack))

/-- A check looks nothing up and puts nothing in while no scope is entered, whatever the program
is, and it leaves every scope that it enters. -/
theorem Program.moves_check
    (program : Program) : Moves [] program.check [] := by
  apply Moves.bind .forget
  intro _
  apply Moves.bind (.create none)
  intro root
  apply Moves.bind (.note fun _ _ => rfl)
  intro _
  apply moves_inScope
  rw [← program.run_partsCourse]
  exact program.partsCourse.moves (List.cons_ne_nil root [])

end StructLang
