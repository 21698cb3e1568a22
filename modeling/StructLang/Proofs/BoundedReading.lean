import StructLang.Proofs.Cursor.Bounds
import StructLang.Proofs.FromSource

/-!
# Reading ends at the first end

A cursor that moves over tokens with an end reads a program, or says which fault of the grammar or
which integer keeps it from that. It never looks where no token is. Whatever is read from whichever
place, the cursor stays in front of the first end or at it, each construct takes at least one token,
and nothing is asked for again where it is under way: each round of a repetition and each construct
inside one of its kind starts at a later place. So no more tasks are inside of one another than the
tokens up to the first end allow, and a greater depth changes nothing.

- `Cursor.parse_bounded` : the outcome of reading, and what bounds each part of it.
-/

namespace StructLang.Cursor

/-- From tokens with an end the cursor reads what `Program.ofTokens` does. A failure is a fault of
the grammar or an integer without a value. Every task is bounded from every place up to the first
end. -/
theorem parse_bounded
    {tokens : List Token} (hasEnd : HasEnd tokens) :
    (∃ outcome, parse tokens = some outcome ∧ Program.ofTokens tokens = outcome ∧
      ∀ failure, outcome = .error failure → failure.IsOf tokens) ∧
    ∀ (task : Task) (place : Nat), place ≤ firstEnd tokens → task.IsBounded tokens place := by
  refine ⟨⟨_, hasEnd.parse_eq, rfl, fun failure isFailure => ?_⟩,
    fun task place => hasEnd.isBounded task⟩
  obtain ⟨outcome, isDone, areOf⟩ := (hasEnd.isBounded .program (Nat.zero_le _)).ends
  have isParsed : parse tokens = some (outcome.map Prod.fst) := by
    rw [parse, isDone _ (Task.program.height_mono List.findIdx_le_length)]
    rfl
  rw [hasEnd.parse_eq, isFailure] at isParsed
  cases outcome with
  | ok done => cases isParsed
  | error other =>
      cases isParsed
      exact areOf failure rfl

-- Without an end there may be no token to look at.
example : parse [] = some (.error .noTokens) := rfl

/-- The tokens of a struct and a main body, with the mark of their end. -/
theorem parse_bounded_selfContained :
    HasEnd (selfContainedTokens ++ [⟨.finish, "", ⟨1, 21⟩⟩]) ∧
      firstEnd (selfContainedTokens ++ [⟨.finish, "", ⟨1, 21⟩⟩]) = 10 ∧
      parse (selfContainedTokens ++ [⟨.finish, "", ⟨1, 21⟩⟩]) = some (.ok selfContained) ∧
      ∀ (task : Task) (place : Nat), place ≤ 10 →
        task.IsBounded (selfContainedTokens ++ [⟨.finish, "", ⟨1, 21⟩⟩]) place := by
  have hasEnd : HasEnd (selfContainedTokens ++ [⟨.finish, "", ⟨1, 21⟩⟩]) :=
    ⟨_, List.mem_concat_self, rfl⟩
  obtain ⟨⟨outcome, isParsed, isOutcome, -⟩, isBounded⟩ := parse_bounded hasEnd
  obtain rfl := isOutcome.symm.trans Program.ofTokens_selfContained
  exact ⟨hasEnd, rfl, isParsed, isBounded⟩

end StructLang.Cursor
