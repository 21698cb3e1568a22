import StructLang.Command.Folder
import StructLang.Command.Options
import StructLang.Layout.OfProgram
import StructLang.Program.Check
import StructLang.Text.Excerpt

/-!
# Running the command

The command splits the text of a file into tokens, reads a program from them and checks it. It
shows the first fault, or all diagnostics, with the lines they speak of. On demand it shows the
tokens or the program instead.
-/

namespace StructLang.Command

/-- What the command writes and how it ends. -/
structure Output where
  exitCode : Nat
  standard : String
  errors : String
  deriving DecidableEq, Repr

/-- Why the command breaks off. -/
inductive CommandFault
  | undecodable
  | file (fault : FileFault) (path : String)
  | numeral (fault : Text.NumeralFault)
  | noTokens
  | check (failure : CheckFailure)
  | message (missing : MissingName)
  deriving DecidableEq, Repr

/-! ## Fixed texts -/

/-- How the command is used. -/
def usage : String := "usage: struxc [-h] [--emit-tokens] [--emit-ast] [--verbose] input\n"

/-- What the command tells about itself. -/
def help : String :=
  usage ++
    "\nstrux semantic checker\n" ++
    "\npositional arguments:\n" ++
    "  input          Input .sx file\n" ++
    "\noptions:\n" ++
    "  -h, --help     show this help message and exit\n" ++
    "  --emit-tokens  Print token stream\n" ++
    "  --emit-ast     Print AST\n" ++
    "  --verbose      Log analyzer internals\n"

/-- The name of a file without the directories before it. -/
def baseName (path : String) : String :=
  String.ofList (path.toList.reverse.takeWhile (· != '/')).reverse

/-! ## Parts of the output -/

/-- What is written for a fault that is shown with its line and column. -/
def refusal (source file message : String) (position : Position) : Output :=
  ⟨1, "", Text.excerpt source file message position.line position.column ++ "\n"⟩

/-- What is written for a token. -/
def tokenLine (token : Token) : String :=
  let place := s!"{token.position.line}:{token.position.column}"
  s!"Token({token.kind.name}, {Text.quoted token.text}, {place})\n"

/-- What is written for a diagnostic. -/
def diagnosticText (source file : String) (diagnostic : Diagnostic) :
    Except CommandFault String := do
  let message ← diagnostic.message.mapError .message
  return Text.excerpt source file message diagnostic.line 0 ++ "\n"

/-- What is written first if the command is to tell what it does. -/
def logLine (verbose : Bool) (count : Nat) : String :=
  if verbose then
    s!"strux.compiler.analyzer.core: analysis finished with {count} diagnostic(s)\n"
  else ""

/-- What is written for a program that was checked. -/
def verdict (options : Options) (source file : String) (program : Program)
    (diagnostics : List Diagnostic) : Except CommandFault Output := do
  let log := logLine options.verbose diagnostics.length
  if diagnostics.isEmpty then
    let structs := program.structs.length
    let functions := program.functions.length
    return ⟨0, s!"{file}: OK ({structs} struct(s), {functions} function(s))\n", log⟩
  else
    let texts ← diagnostics.mapM (diagnosticText source file)
    return ⟨1, "", log ++ String.join texts ++ s!"{diagnostics.length} error(s) in {file}\n"⟩

/-! ## The command -/

/-- Runs the command on the text of a file. -/
def runOnSource (options : Options) (source : String) : Except CommandFault Output :=
  let file := baseName options.file
  match scan source with
  | .error fault => .ok (refusal source file fault.message fault.position)
  | .ok tokens =>
      if options.emitTokens then .ok ⟨0, String.join (tokens.map tokenLine), ""⟩
      else
        match Program.ofTokens tokens with
        | .error (.grammar fault) => .ok (refusal source file fault.message fault.position)
        | .error (.numeral fault) => .error (.numeral fault)
        | .error .noTokens => .error .noTokens
        | .ok program =>
            if options.emitAst then .ok ⟨0, program.listing ++ "\n", ""⟩
            else
              match program.checked with
              | .error failure _ => .error (.check failure)
              | .ok _ state => verdict options source file program state.diagnostics

/-- Runs the command on what is found under the name of its file. -/
def run (options : Options) (content : FileContent) : Except CommandFault Output :=
  match content with
  | .missing => .ok ⟨1, "", s!"Error: File '{options.file}' not found\n"⟩
  | .undecodable => .error .undecodable
  | .unreadable fault => .error (.file fault options.file)
  | .text characters => runOnSource options (String.ofList (Text.unifyLineEnds characters))

/-- What is written for arguments that ask for no file to be checked. -/
def answerUsage (fault : UsageFault) : Output :=
  ⟨2, "", usage ++ s!"struxc: error: {fault.message}\n"⟩

/-- What the command does on arguments: an answer at once, or the check of a file. -/
def plan (arguments : List String) : Output ⊕ Options :=
  match request arguments with
  | .error fault => .inl (answerUsage fault)
  | .ok .help => .inl ⟨0, help, ""⟩
  | .ok (.check options) => .inr options

end StructLang.Command
