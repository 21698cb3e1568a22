import StructLang.Alphabet.Digit
import StructLang.Text.Quoted

/-!
# Options of the command

The command takes one file and any number of flags, in any order. A flag is written out, or as an
initial part of its long form that no other flag has. After two dashes alone, everything is an
operand. What an argument is follows from its text; then the arguments are taken one by one.
-/

namespace StructLang.Command

/-- What the command can be told beside the file. -/
inductive Flag
  | help
  | emitTokens
  | emitAst
  | verbose
  deriving DecidableEq, Repr

/-- The texts that stand for flags. -/
def spellings : List (String × Flag) :=
  [("-h", .help), ("--help", .help), ("--emit-tokens", .emitTokens), ("--emit-ast", .emitAst),
   ("--verbose", .verbose)]

/-- A flag as messages name it: all its spellings. -/
def Flag.title (flag : Flag) : String :=
  "/".intercalate ((spellings.filter (·.2 == flag)).map (·.1))

/-- What is written together with a flag: a value after the equals sign of a long form, or further
letters after a short one, an equals sign between them apart. -/
inductive Attached
  | value (text : List Char)
  | letters (text : List Char)
  deriving DecidableEq, Repr

/-- What an argument is. -/
inductive Argument
  | operand (text : String)
  | separator
  | flag (flag : Flag) (attached? : Option Attached)
  | unknown (text : String)
  deriving DecidableEq, Repr

/-- Why the arguments are refused. -/
inductive UsageFault
  | ambiguous (text : String) (candidates : List String)
  | ignoredValue (flag : Flag) (value : String)
  | missingFile
  | unrecognized (arguments : List String)
  deriving DecidableEq, Repr

/-- How refused arguments are reported. -/
def UsageFault.message : UsageFault → String
  | ambiguous text candidates =>
      let joined := ", ".intercalate candidates
      s!"ambiguous option: {text} could match {joined}"
  | ignoredValue flag value =>
      s!"argument {flag.title}: ignored explicit argument {Text.quoted value}"
  | missingFile => "the following arguments are required: input"
  | unrecognized arguments =>
      let joined := " ".intercalate arguments
      s!"unrecognized arguments: {joined}"

/-! ## What an argument is -/

/-- Whether the characters are decimal digits, at least one. -/
def areDigits (characters : List Char) : Bool :=
  !characters.isEmpty && characters.all fun character =>
    (Alphabet.decimalValue? character).isSome

/-- A text without the line feed it may end in. -/
def withoutFinalLineFeed (text : List Char) : List Char :=
  if text.getLast? = some '\n' then text.dropLast else text

/-- Whether a text is a negative number: a minus sign, digits, and maybe a point with digits after
it, in which case there may be no digits before. A line feed may end it. -/
def isNegativeNumber (text : List Char) : Bool :=
  match withoutFinalLineFeed text with
  | '-' :: digits =>
      let whole := digits.takeWhile (· != '.')
      match digits.dropWhile (· != '.') with
      | '.' :: fraction => (whole.isEmpty || areDigits whole) && areDigits fraction
      | _ => areDigits whole
  | _ => false

/-- What is attached to a flag by the first equals sign of a text, if it has one. -/
def attachedByEquals? (text : List Char) : Option Attached :=
  match text.dropWhile (· != '=') with
  | _ :: value =>
      some (if ['-', '-'].isPrefixOf text then .value value else .letters value)
  | [] => none

/-- The flags that a text can be meant for: those with a long form that starts with its part before
the first equals sign; or, after a single dash, the short flag of its first letter. -/
def candidates (text : List Char) : List (String × Flag × Option Attached) :=
  match text with
  | '-' :: '-' :: _ =>
      let start := text.takeWhile (· != '=')
      (spellings.filter fun (spelling, _) => start.isPrefixOf spelling.toList).map
        fun (spelling, flag) => (spelling, flag, attachedByEquals? text)
  | '-' :: letter :: value =>
      (spellings.filter fun (spelling, _) => spelling.toList == ['-', letter]).map
        fun (spelling, flag) => (spelling, flag, some (.letters value))
  | _ => []

/-- What an argument before the separator is. -/
def classifyText (text : String) : Except UsageFault Argument :=
  let characters := text.toList
  let withoutValue := String.ofList (characters.takeWhile (· != '='))
  if characters.head? ≠ some '-' ∨ characters = ['-'] then .ok (.operand text)
  else
    match spellings.lookup text, spellings.lookup withoutValue with
    | some flag, _ => .ok (.flag flag none)
    | none, some flag => .ok (.flag flag (attachedByEquals? characters))
    | none, none =>
        match candidates characters with
        | [(_, flag, attached?)] => .ok (.flag flag attached?)
        | [] =>
            if isNegativeNumber characters || characters.contains ' ' then .ok (.operand text)
            else .ok (.unknown text)
        | several => .error (.ambiguous text (several.map (·.1)))

/-- What the arguments are. -/
def classify : List String → Except UsageFault (List Argument)
  | [] => .ok []
  | text :: others =>
      if text = "--" then .ok (.separator :: others.map .operand)
      else do
        let argument ← classifyText text
        return argument :: (← classify others)

/-! ## Taking the arguments -/

/-- What the command was told. -/
structure Options where
  file : String
  emitTokens : Bool
  emitAst : Bool
  verbose : Bool
  deriving DecidableEq, Repr

/-- What the arguments ask for. -/
inductive Request
  | help
  | check (options : Options)
  deriving DecidableEq, Repr

/-- What was taken from the arguments so far: the file, the flags, and what has no place. -/
structure Taken where
  file? : Option String
  emitTokens : Bool
  emitAst : Bool
  verbose : Bool
  extras : List String
  deriving DecidableEq, Repr

namespace Taken

/-- Nothing taken yet. -/
def nothing : Taken := ⟨none, false, false, false, []⟩

/-- Adds an argument that has no place. -/
def addExtra (taken : Taken) (text : String) : Taken :=
  { taken with extras := taken.extras ++ [text] }

/-- What is left to do when all arguments are taken. -/
def finish (taken : Taken) : Except UsageFault Request :=
  match taken.file? with
  | none => .error .missingFile
  | some file =>
      if taken.extras.isEmpty then
        .ok (.check ⟨file, taken.emitTokens, taken.emitAst, taken.verbose⟩)
      else .error (.unrecognized taken.extras)

end Taken

/-- What the letters after the short flag for help come to: each must be that of the flag once
more. -/
def helpWithLetters : List Char → Except UsageFault Request
  | ['h'] => .ok .help
  | 'h' :: next :: others => helpWithLetters (next :: others)
  | others => .error (.ignoredValue .help (String.ofList others))

/-- Takes the arguments one by one. The first operand is the file, and a separator next to it, or
before it, is dropped. -/
def take (taken : Taken) : List Argument → Except UsageFault Request
  | [] => taken.finish
  | .operand text :: .separator :: others =>
      if taken.file?.isSome then take (taken.addExtra text) (.separator :: others)
      else take { taken with file? := some text } others
  | .operand text :: others =>
      if taken.file?.isSome then take (taken.addExtra text) others
      else take { taken with file? := some text } others
  | .separator :: others =>
      if taken.file?.isNone && !others.isEmpty then take taken others
      else take (taken.addExtra "--") others
  | .unknown text :: others => take (taken.addExtra text) others
  | .flag flag (some (.value text)) :: _ =>
      .error (.ignoredValue flag (String.ofList text))
  | .flag _ (some (.letters text)) :: _ => helpWithLetters text
  | .flag .help none :: _ => .ok .help
  | .flag .emitTokens none :: others => take { taken with emitTokens := true } others
  | .flag .emitAst none :: others => take { taken with emitAst := true } others
  | .flag .verbose none :: others => take { taken with verbose := true } others

/-- What the arguments of the command ask for. -/
def request (arguments : List String) : Except UsageFault Request := do
  take .nothing (← classify arguments)

end StructLang.Command
