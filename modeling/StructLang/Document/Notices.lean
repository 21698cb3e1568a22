import StructLang.Document.Outline
import StructLang.Document.Uri
import StructLang.Program.Check

/-!
# Notices about documents

A document is split into tokens, read and checked. A fault of the first two is one notice at one
character; each diagnostic of the check is a notice over a whole line. All notices are errors.
-/

namespace StructLang

/-- A complaint about a part of a document. Only diagnostics of a check have a code. -/
structure Notice where
  range : DocumentRange
  message : String
  code? : Option String
  deriving DecidableEq, Repr

namespace Notice

/-- The name under which notices are given. -/
def source : String := "strux"

/-- The severity of every notice: that of an error. -/
def severity : Nat := 1

/-- A notice at one character. -/
def atCharacter (position : Position) (message : String) : Notice :=
  let line := DocumentPlace.fromOne position.line
  let column := DocumentPlace.fromOne position.column
  ⟨⟨⟨line, column⟩, ⟨line, column + 1⟩⟩, message, none⟩

/-- A notice over a line. -/
def overLine (lines : List String) (line : Int) (message code : String) : Notice :=
  let number := DocumentPlace.fromOne line
  ⟨⟨⟨number, 0⟩, ⟨number, Outline.lineLength lines number⟩⟩, message, some code⟩

end Notice

/-- What is known about a document: the notices, and as much as could be made of its text. -/
structure DocumentReport where
  source : String
  notices : List Notice
  tokens? : Option (List Token)
  program? : Option Program
  findings? : Option CheckState
  deriving Repr

/-- Why nothing is known about a document. A document that is not open has no text; it would have
to be read from its path. -/
inductive DocumentFault
  | uri (fault : UriFault)
  | notOpen (path : String)
  | numeral (fault : Text.NumeralFault)
  | noTokens
  | check (failure : CheckFailure)
  | message (missing : MissingName)
  | outline (fault : OutlineFault)
  deriving DecidableEq, Repr

/-- How a document without a text is reported, given its path. -/
def DocumentFault.notOpenMessage (path : String) : String :=
  s!"[Errno 2] No such file or directory: {Text.quoted path}"

namespace DocumentReport

/-- The notice of a diagnostic. -/
def noticeOf (lines : List String) (diagnostic : Diagnostic) : Except DocumentFault Notice := do
  let message ← diagnostic.message.mapError .message
  return .overLine lines diagnostic.line message diagnostic.kind.name

/-- What is known about a text. -/
def ofSource (source : String) : Except DocumentFault DocumentReport :=
  match scan source with
  | .error fault =>
      .ok ⟨source, [.atCharacter fault.position fault.message], none, none, none⟩
  | .ok tokens =>
      match Program.ofTokens tokens with
      | .error (.grammar fault) =>
          .ok ⟨source, [.atCharacter fault.position fault.message], some tokens, none, none⟩
      | .error (.numeral fault) => .error (.numeral fault)
      | .error .noTokens => .error .noTokens
      | .ok program =>
          match program.checked with
          | .error failure _ => .error (.check failure)
          | .ok _ state => do
              let notices ← state.diagnostics.mapM (noticeOf (Text.lines source))
              return ⟨source, notices, some tokens, some program, some state⟩

/-- What is known about the document with a URI and a text. -/
def ofDocument (uri source : String) : Except DocumentFault DocumentReport := do
  let _ ← (Uri.path uri).mapError .uri
  ofSource source

/-- The outline of a document, empty if its text is no program. -/
def outline (report : DocumentReport) : Except DocumentFault (List OutlineEntry) :=
  match report.program? with
  | none => .ok []
  | some program => (program.outline report.source).mapError .outline

end DocumentReport

end StructLang
