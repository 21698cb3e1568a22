import StructLang.Program.Check
import StructLang.Proofs.Check.Trace

/-!
# The course of a check

A step of a check only says in which state it ends. Its course also says through which states it
leads there. It is put together from acts, each of which is one change of the state or one look at
it, and from bodies that are run inside a scope. What is entered is left again, so a course that
completes leaves the stack of scopes as it found it.

- `Course.Passes` : the states on the way, those of a course that fails included.
- `Course.stack_eq` : entering and leaving are balanced.
- `run_course` : each part of a check is the run of its course.
-/

namespace StructLang

open Check

/-- A change of what a check has found so far, which neither sees nor changes its scopes. -/
structure Note where
  change : CheckState → CheckState
  unseen : ∀ state store, change (state.withScopes store) = (change state).withScopes store

namespace Note

/-- One more finding. -/
def finding (finding : Finding) : Note :=
  ⟨(·.noting finding), fun state store => state.noting_withScopes store finding⟩

/-- Another struct is looked at. -/
def current (container? : Option String) : Note :=
  ⟨(·.withCurrent container?), fun state store =>
    (state.withCurrent_withScopes container? store).symm⟩

/-- A scope is the outermost one from now on. -/
def root (scope : ScopeId) : Note :=
  ⟨fun state => { state with root? := some scope }, fun _ _ => rfl⟩

/-- One more name was made up. -/
def made : Note := ⟨fun state => { state with renames := state.renames + 1 }, fun _ _ => rfl⟩

/-- A declaration is known under another name. -/
def named (address : Address) (name : String) : Note :=
  ⟨fun state => { state with names := (address, name) :: state.names }, fun _ _ => rfl⟩

/-- A change that does not see the scopes leaves them as they were. -/
theorem scopes_eq
    (added : Note) (state : CheckState) :
    (added.change state).scopes = state.scopes := by
  have same := added.unseen state state.scopes
  rw [CheckState.withScopes_self] at same
  rw [same, CheckState.withScopes_scopes]

end Note

/-- What is done one after the other while a program is checked. -/
inductive Course : Type → Type 1
  | give {alpha : Type} (found : alpha) : Course alpha
  | fail {alpha : Type} (failure : CheckFailure) : Course alpha
  | andThen {alpha beta : Type} (first : Course alpha) (next : alpha → Course beta) : Course beta
  | look : Course CheckState
  | note (note : Note) : Course Unit
  | put (entry : Entry) : Course (Except ScopeFault Unit)
  | create (enclosing? : Option ScopeId) : Course ScopeId
  | enclose (scope outer : ScopeId) : Course Unit
  | inside (scope : ScopeId) (body : Course Unit) : Course Unit

namespace Course

instance : Monad Course where
  pure := give
  bind := andThen

/-- Puts an entry into the innermost scope, unless there is a fault. -/
def putting (entry : Entry) : Check (Except ScopeFault Unit) := fun state =>
  match state.scopes.insert entry with
  | .ok scopes => .ok (.ok ()) (state.withScopes scopes)
  | .error fault => .ok (.error fault) state

/-- The step that a course is. -/
def run : {alpha : Type} → Course alpha → Check alpha
  | _, give found => pure found
  | _, fail failure => throw failure
  | _, andThen first next => first.run >>= fun found => (next found).run
  | _, look => get
  | _, note added => modify added.change
  | _, put entry => putting entry
  | _, create enclosing? => newScope enclosing?
  | _, enclose scope outer => modifyScopes (·.enclose scope outer)
  | _, inside scope body => inScope scope body.run

/-- The state that a step leaves behind, whether it completes or fails. -/
def left {alpha : Type} (step : Check alpha) (state : CheckState) : CheckState :=
  match step.run state with
  | .ok _ final => final
  | .error _ final => final

/-- A course that starts in a state passes another one. -/
inductive Passes : {alpha : Type} → Course alpha → CheckState → CheckState → Prop
  | starts {alpha : Type} (course : Course alpha) (state : CheckState) : Passes course state state
  | ends {alpha : Type} (course : Course alpha) (state : CheckState) :
      Passes course state (left course.run state)
  | first {alpha beta : Type} {first : Course alpha} {next : alpha → Course beta}
      {state point : CheckState} :
      Passes first state point → Passes (andThen first next) state point
  | next {alpha beta : Type} {first : Course alpha} {next : alpha → Course beta}
      {state reached point : CheckState} {found : alpha} :
      first.run.run state = .ok found reached → Passes (next found) reached point →
        Passes (andThen first next) state point
  | inside {scope : ScopeId} {body : Course Unit} {state point : CheckState} :
      Passes body (state.withScopes (state.scopes.push scope)) point →
        Passes (inside scope body) state point

/-! ## What is entered is left -/

/-- A run of two steps goes on with the second one where the first one completed. -/
theorem run_bind_ok
    {alpha beta : Type} {first : Check alpha} {state reached : CheckState} {value : alpha}
    (completed : first.run state = .ok value reached) (next : alpha → Check beta) :
    (first >>= next).run state = (next value).run reached := by
  change EStateM.bind first next state = _
  rw [EStateM.bind, show first state = .ok value reached from completed]
  rfl

/-- A run of two steps that completes has completed them both. -/
theorem of_bind_ok
    {alpha beta : Type} (first : Check alpha) {next : alpha → Check beta}
    {state final : CheckState} {found : beta}
    (completed : (first >>= next).run state = .ok found final) :
    ∃ value reached, first.run state = .ok value reached ∧
      (next value).run reached = .ok found final := by
  change EStateM.bind first next state = _ at completed
  rw [EStateM.bind] at completed
  cases result : first state with
  | ok value reached =>
      rw [result] at completed
      exact ⟨value, reached, result, completed⟩
  | error failure reached =>
      rw [result] at completed
      cases completed

/-- A step that completes inside a scope has completed after the scope was entered, and then the
scope was left. -/
theorem of_inScope_ok
    {scope : ScopeId} {step : Check Unit} {state final : CheckState}
    (completed : (inScope scope step).run state = .ok () final) :
    ∃ reached, step.run (state.withScopes (state.scopes.push scope)) = .ok () reached ∧
      final = reached.withScopes reached.scopes.pop := by
  obtain ⟨_, entered, isEntered, isInside⟩ := of_bind_ok (modifyScopes _) completed
  cases isEntered
  obtain ⟨_, reached, isReached, isLeft⟩ := of_bind_ok step isInside
  cases isLeft
  exact ⟨reached, isReached, rfl⟩

/-- A run of two steps leaves behind what the second one does, unless the first one fails. -/
theorem left_bind
    {alpha beta : Type} (first : Check alpha) (next : alpha → Check beta) (state : CheckState) :
    (∃ failure, first.run state = .error failure (left (first >>= next) state)) ∨
      ∃ found reached, first.run state = .ok found reached ∧
        left (first >>= next) state = left (next found) reached := by
  have ran : left (first >>= next) state =
      match EStateM.bind first next state with
      | .ok _ final => final
      | .error _ final => final := rfl
  rw [ran, EStateM.bind]
  cases result : first state with
  | ok found reached => exact Or.inr ⟨found, reached, result, rfl⟩
  | error failure reached => exact Or.inl ⟨failure, result⟩

/-- What is put in goes into the innermost scope and leaves the stack as it was. -/
theorem stack_of_insert
    {store filled : ScopeStore} {entry : Entry} (inserted : store.insert entry = .ok filled) :
    filled.stack = store.stack := by
  rw [ScopeStore.insert] at inserted
  split at inserted
  · cases inserted
  · split at inserted
    · cases inserted
    · cases inserted
      rfl

/-- A course that completes leaves the stack of scopes as it found it. -/
theorem stack_eq
    {alpha : Type} (course : Course alpha) {state final : CheckState} {found : alpha}
    (completed : course.run.run state = .ok found final) :
    final.scopes.stack = state.scopes.stack := by
  induction course generalizing state final with
  | give | look | create | enclose =>
      cases completed
      rfl
  | fail => cases completed
  | andThen first next firstHypothesis nextHypothesis =>
      obtain ⟨value, reached, isFirst, isNext⟩ := of_bind_ok _ completed
      exact (nextHypothesis value isNext).trans (firstHypothesis isFirst)
  | note added =>
      cases completed
      exact congrArg ScopeStore.stack (added.scopes_eq state)
  | put entry =>
      change putting entry state = _ at completed
      rw [putting] at completed
      cases inserted : state.scopes.insert entry with
      | ok filled =>
          rw [inserted] at completed
          cases completed
          exact stack_of_insert inserted
      | error fault =>
          rw [inserted] at completed
          cases completed
          rfl
  | inside scope body inductionHypothesis =>
      obtain ⟨reached, isBody, rfl⟩ := of_inScope_ok completed
      exact congrArg List.tail (inductionHypothesis isBody)

/-! ## The courses of single steps -/

/-- The course of a report about a node. -/
def report (kind : DiagnosticKind) (address : Address) (position : Position)
    (names : List String) : Course Unit :=
  note (.finding (.complaint kind address position names))

/-- The course of a report about no node. -/
def reportNowhere (kind : DiagnosticKind) (names : List String) : Course Unit :=
  note (.finding (.reported ⟨none, ⟨kind, 0, names⟩⟩))

/-- The course of settling a verdict. -/
def settle (address : Address) (position : Position) (verdict : Verdict) : Course Ty := do
  match verdict with
  | .type _ => pure ()
  | .fault kind names => report kind address position names
  note (.finding (.typed address verdict.ty))
  return verdict.ty

/-- The course of making up a number. -/
def nextRename : Course Nat := do
  note .made
  return (← look).renames

/-- The course of putting an entry in if its key is free. -/
def tryInsert (entry : Entry) : Course Bool := do
  match ← put entry with
  | .ok _ => return true
  | .error (.taken _) => return false
  | .error fault => fail (.scope fault)

/-- The course of putting in an entry whose key must be free. -/
def insert (entry : Entry) : Course Unit := do
  match ← put entry with
  | .ok _ => return
  | .error fault => fail (.scope fault)

/-- The course of putting in an entry under a made-up name. -/
def insertRenamed (address : Address) (name : String) (entry : Entry) : Course Unit := do
  note (.named address name)
  insert (entry.rename name)

/-- The course of a body that is run inside a new scope. -/
def inNewScope (body : Course Unit) : Course Unit := do
  inside (← create none) body

section Runs

variable {alpha beta : Type}

theorem run_bind
    (first : Course alpha) (next : alpha → Course beta) :
    (first >>= next).run = first.run >>= fun found => (next found).run := rfl

theorem run_pure
    (found : alpha) : (pure found : Course alpha).run = pure found := rfl

theorem run_look : look.run = get := rfl

theorem run_note
    (added : Note) : (note added).run = modify added.change := rfl

theorem run_put
    (entry : Entry) : (put entry).run = putting entry := rfl

theorem run_create
    (enclosing? : Option ScopeId) : (create enclosing?).run = newScope enclosing? := rfl

theorem run_enclose
    (scope outer : ScopeId) :
    (enclose scope outer).run = modifyScopes (·.enclose scope outer) := rfl

theorem run_inside
    (scope : ScopeId) (body : Course Unit) :
    (inside scope body).run = inScope scope body.run := rfl

theorem run_report
    (kind : DiagnosticKind) (address : Address) (position : Position) (names : List String) :
    (report kind address position names).run = Check.report kind address position names := rfl

theorem run_settle
    (address : Address) (position : Position) (verdict : Verdict) :
    (settle address position verdict).run = Check.settle address position verdict := by
  cases verdict <;> rfl

theorem run_nextRename : nextRename.run = Check.nextRename := rfl

theorem run_put_bind
    (entry : Entry) (next : Except ScopeFault Unit → Course alpha) (state : CheckState) :
    (put entry >>= next).run state =
      match state.scopes.insert entry with
      | .ok scopes => (next (.ok ())).run (state.withScopes scopes)
      | .error fault => (next (.error fault)).run state := by
  change EStateM.bind (putting entry) _ state = _
  rw [EStateM.bind, putting]
  cases state.scopes.insert entry <;> rfl

theorem tryInsert_eq
    (entry : Entry) (state : CheckState) :
    Check.tryInsert entry state =
      (match state.scopes.insert entry with
      | .ok scopes => do
          modify fun state => { state with scopes := scopes }
          return true
      | .error (.taken _) => return false
      | .error fault => throw (.scope fault) : Check Bool) state := rfl

theorem insert_eq
    (entry : Entry) (state : CheckState) :
    Check.insert entry state =
      (match state.scopes.insert entry with
      | .ok scopes => modify fun state => { state with scopes := scopes }
      | .error fault => throw (.scope fault) : Check Unit) state := rfl

theorem run_tryInsert
    (entry : Entry) : (tryInsert entry).run = Check.tryInsert entry := by
  funext state
  rw [tryInsert, run_put_bind, tryInsert_eq]
  cases state.scopes.insert entry with
  | ok scopes => rfl
  | error fault => cases fault <;> rfl

theorem run_insert
    (entry : Entry) : (insert entry).run = Check.insert entry := by
  funext state
  rw [insert, run_put_bind, insert_eq]
  cases state.scopes.insert entry <;> rfl

theorem run_insertRenamed
    (address : Address) (name : String) (entry : Entry) :
    (insertRenamed address name entry).run = Check.insertRenamed address name entry := by
  rw [insertRenamed, run_bind, run_insert]
  rfl

theorem run_discard
    (course : Course alpha) : (discard course).run = discard course.run := rfl

theorem run_forM
    (items : List alpha) (body : alpha → Course Unit) :
    (items.forM body).run = items.forM fun item => (body item).run := by
  induction items with
  | nil => rfl
  | cons head tail inductionHypothesis =>
      change (body head).run >>= (fun _ => (tail.forM body).run) = _
      rw [inductionHypothesis]
      rfl

theorem run_inNewScope
    (body : Course Unit) : (inNewScope body).run = Check.inNewScope body.run := rfl

end Runs

end Course

end StructLang
