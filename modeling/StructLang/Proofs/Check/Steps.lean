import StructLang.Check.State

/-!
# How a step of a check ends

A step ends well if it completes with a value and a state of which something holds, or if it fails
and may do so. What a whole check does follows from what its steps do, one rule for each way of
putting steps together. The same statement serves twice: of a check that completed it says what
its state is, and of a program that must not fail it says that its check completes.
-/

namespace StructLang.Check

variable {alpha beta : Type} {mayFail : Prop} {state : CheckState}

/-- A step completes with a value and a state of which something holds, or it may fail. -/
def Ends
    (mayFail : Prop) (step : Check alpha) (state : CheckState)
    (holds : alpha → CheckState → Prop) : Prop :=
  match step.run state with
  | .ok found final => holds found final
  | .error _ _ => mayFail

namespace Ends

theorem of_completed
    {step : Check alpha} {holds : alpha → CheckState → Prop} {found : alpha}
    {final : CheckState}
    (ends : Ends mayFail step state holds) (completed : step.run state = .ok found final) :
    holds found final := by
  rw [Ends, completed] at ends
  exact ends

theorem completes
    {step : Check alpha} {holds : alpha → CheckState → Prop}
    (ends : Ends mayFail step state holds) (mustNotFail : ¬ mayFail) :
    ∃ found final, step.run state = .ok found final ∧ holds found final := by
  rw [Ends] at ends
  cases result : step.run state with
  | ok found final =>
      rw [result] at ends
      exact ⟨found, final, rfl, ends⟩
  | error failure final =>
      rw [result] at ends
      exact absurd ends mustNotFail

theorem imp
    {step : Check alpha} {holds holdsToo : alpha → CheckState → Prop}
    (ends : Ends mayFail step state holds)
    (weaker : ∀ found final, holds found final → holdsToo found final) :
    Ends mayFail step state holdsToo := by
  rw [Ends] at ends ⊢
  cases result : step.run state with
  | ok found final =>
      rw [result] at ends
      exact weaker found final ends
  | error failure final =>
      rw [result] at ends
      exact ends

theorem orFail
    {mayFailToo : Prop} {step : Check alpha} {holds : alpha → CheckState → Prop}
    (ends : Ends mayFail step state holds) (weaker : mayFail → mayFailToo) :
    Ends mayFailToo step state holds := by
  rw [Ends] at ends ⊢
  cases result : step.run state with
  | ok found final =>
      rw [result] at ends
      exact ends
  | error failure final =>
      rw [result] at ends
      exact weaker ends

theorem weaken
    {mayFailToo : Prop} {step : Check alpha} {holds holdsToo : alpha → CheckState → Prop}
    (ends : Ends mayFail step state holds) (fails : mayFail → mayFailToo)
    (weaker : ∀ found final, holds found final → holdsToo found final) :
    Ends mayFailToo step state holdsToo :=
  (ends.orFail fails).imp weaker

theorem bind
    {first : Check alpha} {next : alpha → Check beta}
    {between : alpha → CheckState → Prop} {holds : beta → CheckState → Prop}
    (ends : Ends mayFail first state between)
    (endsNext : ∀ found reached, between found reached →
      Ends mayFail (next found) reached holds) :
    Ends mayFail (first >>= next) state holds := by
  rw [Ends] at ends ⊢
  change match EStateM.bind first next state with
    | .ok found final => holds found final
    | .error _ _ => mayFail
  rw [EStateM.bind]
  change match first state with
    | .ok found final => between found final
    | .error _ _ => mayFail at ends
  cases result : first state with
  | ok found reached =>
      rw [result] at ends
      exact endsNext found reached ends
  | error failure reached =>
      rw [result] at ends
      exact ends

theorem pure
    {found : alpha} {holds : alpha → CheckState → Prop} (isSo : holds found state) :
    Ends mayFail (Pure.pure found : Check alpha) state holds :=
  isSo

theorem discarding
    {step : Check alpha} {holds : Unit → CheckState → Prop}
    (ends : Ends mayFail step state fun _ final => holds () final) :
    Ends mayFail (discard step) state holds :=
  ends.bind fun _ _ isSo => Ends.pure isSo

theorem throw
    {failure : CheckFailure} {holds : alpha → CheckState → Prop} (isSo : mayFail) :
    Ends mayFail (MonadExcept.throw failure : Check alpha) state holds :=
  isSo

/-- A step that looks at the state goes on like the step that was told it. -/
theorem afterGet
    {next : CheckState → Check beta} {holds : beta → CheckState → Prop}
    (ends : Ends mayFail (next state) state holds) :
    Ends mayFail (MonadState.get >>= next) state holds :=
  ends

/-- A step that changes the state goes on in the changed state. -/
theorem afterChange
    {change : CheckState → CheckState} {next : Unit → Check beta}
    {holds : beta → CheckState → Prop}
    (ends : Ends mayFail (next ()) (change state) holds) :
    Ends mayFail (modify change >>= next) state holds :=
  ends

theorem change
    {change : CheckState → CheckState} {holds : Unit → CheckState → Prop}
    (isSo : holds () (change state)) :
    Ends mayFail (modify change : Check Unit) state holds :=
  isSo

end Ends

end StructLang.Check
