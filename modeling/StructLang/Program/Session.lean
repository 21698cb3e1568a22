import StructLang.Program.Check
import StructLang.Program.OfSource

/-!
# Sessions of checks

A session checks one program after another. Every check starts from what the one before it left
behind, and leaves its own state behind, also if it fails. A source text that is no program leaves
everything as it was.
-/

namespace StructLang

/-- The last program of a session, and the state that its last check left behind. -/
structure Session where
  program? : Option Program
  state : CheckState
  deriving Repr

/-- What a step of a session says about a program. -/
inductive SessionOutcome
  | checked
  | failed (failure : CheckFailure)
  | refused (fault : SourceFault)
  | nothing
  deriving DecidableEq, Repr

namespace Session

/-- The session before its first step. -/
def initial : Session := ⟨none, .initial⟩

/-- Checks a program. -/
def check (session : Session) (program : Program) : SessionOutcome × Session :=
  match program.check.run session.state with
  | .ok _ state => (.checked, ⟨some program, state⟩)
  | .error failure state => (.failed failure, ⟨some program, state⟩)

/-- Checks the program that a source text holds. -/
def checkSource (session : Session) (source : String) : SessionOutcome × Session :=
  match Program.ofSource source with
  | .error fault => (.refused fault, session)
  | .ok program => session.check program

/-- Checks the last program again, if there is one. -/
def checkAgain (session : Session) : SessionOutcome × Session :=
  match session.program? with
  | none => (.nothing, session)
  | some program => session.check program

end Session

end StructLang
