import StructLang.Cursor.Run

/-!
# What a run of a plan comes by

A run of a plan stands at places, looks at places, and asks for tasks at places. It does so itself,
in the tasks that it asks for, and in what these ask for in turn.

- `Task.run_mono` : at a greater depth the outcome of a task is the same.
- `Plan.Visits` : a place that a run comes by, and the task that is asked for there, if any.
- `Plan.run_bind` : running one plan after another.
- `Plan.visits_bind` : what they come by.
-/

namespace StructLang.Cursor

variable {tokens : List Token} {alpha beta : Type} {depth deeper place : Nat}

/-! ## Greater depths -/

/-- Where the tasks keep their outcomes, so does a plan. -/
theorem Plan.run_imp
    {perform other : (task : Task) → Nat → Option (Outcome task.Result)} {plan : Plan alpha}
    {outcome : Outcome alpha}
    (isSame : ∀ task place found, perform task place = some found → other task place = some found)
    (isDone : plan.run tokens perform place = some outcome) :
    plan.run tokens other place = some outcome := by
  induction plan generalizing place with
  | give | fail => exact isDone
  | peek offset following inductionHypothesis =>
      rw [run] at isDone ⊢
      cases isThere : tokenAt? tokens (place + offset) with
      | none => rwa [isThere] at isDone
      | some token =>
          rw [isThere] at isDone
          exact inductionHypothesis token isDone
  | advance following inductionHypothesis =>
      rw [run] at isDone ⊢
      cases isThere : tokens[place]? with
      | none => rwa [isThere] at isDone
      | some token =>
          rw [isThere] at isDone
          exact inductionHypothesis token isDone
  | call task following inductionHypothesis =>
      rw [run] at isDone ⊢
      cases isFound : perform task place with
      | none =>
          rw [isFound] at isDone
          cases isDone
      | some found =>
          rw [isFound] at isDone
          rw [isSame task place found isFound]
          cases found with
          | error failure => exact isDone
          | ok done => exact inductionHypothesis done.1 isDone

theorem Task.run_mono
    {task : Task} {outcome : Outcome task.Result} (isDeeper : depth ≤ deeper)
    (isDone : task.run tokens depth place = some outcome) :
    task.run tokens deeper place = some outcome := by
  induction depth generalizing deeper task place with
  | zero => cases isDone
  | succ depth inductionHypothesis =>
      obtain ⟨further, rfl⟩ := Nat.exists_eq_add_of_le' isDeeper
      exact Plan.run_imp
        (fun _ _ _ => inductionHypothesis (Nat.le_add_left depth further)) isDone

namespace Plan

theorem run_mono
    {plan : Plan alpha} {outcome : Outcome alpha} (isDeeper : depth ≤ deeper)
    (isDone : plan.run tokens (Task.run tokens depth) place = some outcome) :
    plan.run tokens (Task.run tokens deeper) place = some outcome :=
  run_imp (fun _ _ _ => Task.run_mono isDeeper) isDone

/-! ## Visits -/

/-- A run of a plan from a place comes by another place: it stands there, looks there, or asks for a
task there. -/
inductive Visits (tokens : List Token) :
    {value : Type} → Plan value → Nat → Option Task → Nat → Prop
  | here {value : Type} {plan : Plan value} {place : Nat} :
      Visits tokens plan place none place
  | looks {value : Type} {offset place : Nat} {next : Token → Plan value} :
      Visits tokens (.peek offset next) place none (place + offset)
  | asks {value : Type} {task : Task} {next : task.Result → Plan value} {place : Nat} :
      Visits tokens (.call task next) place (some task) place
  | peek {value : Type} {offset place later : Nat} {next : Token → Plan value} {token : Token}
      {asked : Option Task} (isThere : tokenAt? tokens (place + offset) = some token)
      (visits : Visits tokens (next token) place asked later) :
      Visits tokens (.peek offset next) place asked later
  | advance {value : Type} {place later : Nat} {next : Token → Plan value} {token : Token}
      {asked : Option Task} (isThere : tokens[place]? = some token)
      (visits : Visits tokens (next token) (behind token place) asked later) :
      Visits tokens (.advance next) place asked later
  | inside {value : Type} {task : Task} {next : task.Result → Plan value} {place later : Nat}
      {asked : Option Task} (visits : Visits tokens task.plan place asked later) :
      Visits tokens (.call task next) place asked later
  | after {value : Type} {task : Task} {next : task.Result → Plan value}
      {found : task.Result} {depth place middle later : Nat} {asked : Option Task}
      (isDone : task.run tokens depth place = some (.ok (found, middle)))
      (visits : Visits tokens (next found) middle asked later) :
      Visits tokens (.call task next) place asked later

/-! ## One plan after another -/

/-- The outcome of one plan, and then of another one from where the cursor stands. -/
theorem run_bind
    (perform : (task : Task) → Nat → Option (Outcome task.Result)) (plan : Plan alpha)
    (next : alpha → Plan beta) (place : Nat) :
    (plan >>= next).run tokens perform place =
      (plan.run tokens perform place).bind fun
        | .error failure => some (.error failure)
        | .ok (found, after) => (next found).run tokens perform after := by
  change (plan.andThen next).run tokens perform place = _
  induction plan generalizing place with
  | give | fail => rfl
  | peek offset following inductionHypothesis =>
      simp only [andThen, run]
      cases tokenAt? tokens (place + offset) with
      | none => rfl
      | some token => exact inductionHypothesis token place
  | advance following inductionHypothesis =>
      simp only [andThen, run]
      cases tokens[place]? with
      | none => rfl
      | some token => exact inductionHypothesis token (behind token place)
  | call task following inductionHypothesis =>
      simp only [andThen, run]
      cases perform task place with
      | none => rfl
      | some found =>
          cases found with
          | error failure => rfl
          | ok done => exact inductionHypothesis done.1 done.2

/-- A run of one plan after another comes by what a run of the first one does, and, if that gives a
value, by what the second one does from there. -/
theorem visits_bind
    {plan : Plan alpha} {next : alpha → Plan beta} {later : Nat} {asked : Option Task}
    (visits : Visits tokens (plan >>= next) place asked later) :
    Visits tokens plan place asked later ∨
      ∃ depth found middle,
        plan.run tokens (Task.run tokens depth) place = some (.ok (found, middle)) ∧
        Visits tokens (next found) middle asked later := by
  change Visits tokens (plan.andThen next) place asked later at visits
  induction plan generalizing place with
  | give found => exact Or.inr ⟨0, found, place, rfl, visits⟩
  | fail failure =>
      cases visits with
      | here => exact Or.inl .here
  | peek offset following inductionHypothesis =>
      cases visits with
      | here => exact Or.inl .here
      | looks => exact Or.inl .looks
      | peek isThere visits =>
          rcases inductionHypothesis _ visits with
            isFirst | ⟨depth, found, middle, isDone, isSecond⟩
          · exact Or.inl (.peek isThere isFirst)
          · refine Or.inr ⟨depth, found, middle, ?_, isSecond⟩
            rw [run, isThere]
            exact isDone
  | advance following inductionHypothesis =>
      cases visits with
      | here => exact Or.inl .here
      | advance isThere visits =>
          rcases inductionHypothesis _ visits with
            isFirst | ⟨depth, found, middle, isDone, isSecond⟩
          · exact Or.inl (.advance isThere isFirst)
          · refine Or.inr ⟨depth, found, middle, ?_, isSecond⟩
            rw [run, isThere]
            exact isDone
  | call task following inductionHypothesis =>
      cases visits with
      | here => exact Or.inl .here
      | asks => exact Or.inl .asks
      | inside visits => exact Or.inl (.inside visits)
      | @after _ _ _ _ before _ _ _ _ wasDone visits =>
          rcases inductionHypothesis _ visits with
            isFirst | ⟨depth, found, middle, isDone, isSecond⟩
          · exact Or.inl (.after wasDone isFirst)
          · -- The depth has to be enough for the task and for what comes after it.
            refine Or.inr ⟨max before depth, found, middle, ?_, isSecond⟩
            rw [run, Task.run_mono (Nat.le_max_left before depth) wasDone]
            exact run_mono (Nat.le_max_right before depth) isDone

end Plan

end StructLang.Cursor
