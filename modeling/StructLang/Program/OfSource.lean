import StructLang.Program.Read
import StructLang.Token.Scan

/-!
# Programs from source texts

A source text is a program if it splits into tokens and those can be read.
-/

namespace StructLang

/-- Why a source text is not a program. -/
inductive SourceFault
  | lex (fault : LexFault)
  | read (failure : ReadFailure)
  deriving DecidableEq, Repr

/-- Reads a program from a source text. -/
def Program.ofSource (source : String) : Except SourceFault Program := do
  let tokens ← (scan source).mapError .lex
  (Program.ofTokens tokens).mapError .read

end StructLang
