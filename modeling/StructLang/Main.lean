import StructLang.Command.Run

/-!
# The command

Reads the file that the arguments name, and writes what the check of it comes to.
-/

namespace StructLang

/-- What is found under the name of a file. -/
def readContent (path : String) : IO Command.FileContent := do
  try
    return .ofBytes (← IO.FS.readBinFile path)
  catch
    | .noFileOrDirectory .. => return .missing
    | .inappropriateType .. => return .unreadable .isDirectory
    | error => throw error

/-- How a check that broke off is reported. -/
def faultMessage : Command.CommandFault → String
  | .undecodable => "the file is not UTF-8"
  | .file fault path => fault.message path
  | .numeral fault => fault.message
  | .noTokens => "the file has no tokens"
  | .check failure => failure.message
  | .message missing => missing.message

/-- Writes an output and gives its exit code. -/
def write (output : Command.Output) : IO UInt32 := do
  (← IO.getStdout).putStr output.standard
  (← IO.getStderr).putStr output.errors
  return output.exitCode.toUInt32

end StructLang

/-- Runs the command. -/
def main (arguments : List String) : IO UInt32 := do
  match StructLang.Command.plan arguments with
  | .inl output => StructLang.write output
  | .inr options =>
      match StructLang.Command.run options (← StructLang.readContent options.file) with
      | .ok output => StructLang.write output
      | .error fault =>
          (← IO.getStderr).putStrLn (StructLang.faultMessage fault)
          return 1
