import StructLang.Document.Braces
import StructLang.Document.Range
import StructLang.Program.Basic
import StructLang.Text.Lines

/-!
# Outlines

The outline of a document lists its structs with their fields and accessors, its functions and its
main body. A declaration in braces reaches to the end of the line of its closing brace, any other
to the end of its first line. Its name is what an editor selects.
-/

namespace StructLang

/-- What an item of an outline is. -/
inductive OutlineKind
  | struct
  | field
  | property
  | function
  deriving DecidableEq, Repr

/-- The name under which a kind of item is shown. -/
def OutlineKind.name : OutlineKind → String
  | struct => "Struct"
  | field => "Field"
  | property => "Property"
  | function => "Function"

/-- An item of an outline. -/
structure OutlineItem where
  name : String
  kind : OutlineKind
  range : DocumentRange
  selection : DocumentRange
  detail? : Option String
  deriving DecidableEq, Repr

/-- An item at the top of an outline, with the items below it if it is one that has such. -/
structure OutlineEntry where
  item : OutlineItem
  below? : Option (List OutlineItem)
  deriving DecidableEq, Repr

/-- Why a program has no outline over a text. -/
inductive OutlineFault
  | place (fault : PlaceFault)
  | brace (fault : BraceFault)
  deriving DecidableEq, Repr

/-- How a missing outline is reported. -/
def OutlineFault.message : OutlineFault → String
  | place fault => fault.message
  | brace fault => fault.message

namespace Outline

/-- The length of a line of a document, zero for one that it does not have. A negative number
counts from the last line back. -/
def lineLength (lines : List String) (number : Int) : Int :=
  let index := if number < 0 then number + lines.length else number
  ((lines[index.toNat]?).map fun line => (line.length : Int)).getD 0

/-- A place of a document. -/
def place (line column : Int) : Except OutlineFault DocumentPlace :=
  (DocumentPlace.of line column).mapError .place

/-- The place of a position of the source text. -/
def placeOf (position : Position) : Except OutlineFault DocumentPlace :=
  (DocumentPlace.ofPosition position).mapError .place

/-- From a place up to the end of its line. -/
def lineRange (lines : List String) (position : Position) :
    Except OutlineFault DocumentRange := do
  let start ← placeOf position
  let number := DocumentPlace.fromOne position.line
  return ⟨start, ← place number (lineLength lines number)⟩

/-- From a place up to the end of the line on which the braces opened after it are closed, or up
to the end of its line if they never are. -/
def bracedRange (lines : List String) (position : Position) :
    Except OutlineFault DocumentRange := do
  let start ← placeOf position
  match ← (closingBraceLine? lines (position.line - 1)).mapError .brace with
  | some number => return ⟨start, ← place number (lineLength lines number)⟩
  | none => lineRange lines position

/-- From a place over as many columns as a name has characters. -/
def nameRange (position : Position) (name : String) : Except OutlineFault DocumentRange := do
  let start ← placeOf position
  return ⟨start, ← place start.line (start.column + name.length)⟩

/-- Parameters and result as an outline shows them. -/
def signature (parameters : List VariableDecl) (result : Ty) : String :=
  let shown := parameters.map fun parameter => s!"{parameter.type.render} {parameter.name}"
  let joined := ", ".intercalate shown
  s!"({joined}) {result.render}"

/-- The item of a field. -/
def ofField (lines : List String) (field : VariableDecl) : Except OutlineFault OutlineItem := do
  let range ← lineRange lines field.position
  let selection ← nameRange field.position field.name
  return ⟨field.name, .field, range, selection, some field.type.render⟩

/-- The items of a member of a struct. -/
def ofMember (lines : List String) : Stmt → Except OutlineFault (List OutlineItem)
  | .declare fields _ => fields.mapM (ofField lines)
  | .accessor name type parameters field _ _ position => do
      let range ← bracedRange lines position
      let selection ← nameRange field.position name
      return [⟨name, .property, range, selection, some (signature parameters type)⟩]
  | _ => return []

/-- The entry of a struct. -/
def ofStruct (lines : List String) (declaration : StructDecl) :
    Except OutlineFault OutlineEntry := do
  let range ← bracedRange lines declaration.position
  let selection ← nameRange declaration.position declaration.name
  let below ← declaration.members.mapM (ofMember lines)
  return ⟨⟨declaration.name, .struct, range, selection, none⟩, some below.flatten⟩

/-- The entry of a function. -/
def ofFunction (lines : List String) (declaration : FunctionDecl) :
    Except OutlineFault OutlineEntry := do
  let range ← bracedRange lines declaration.position
  let selection ← nameRange declaration.position declaration.name
  let detail := signature declaration.parameters declaration.result
  return ⟨⟨declaration.name, .function, range, selection, some detail⟩, none⟩

/-- The name under which the main body is listed. -/
def mainName : String := "main"

/-- The entry of a main body. -/
def ofMain (lines : List String) (declaration : MainDecl) :
    Except OutlineFault OutlineEntry := do
  let range ← bracedRange lines declaration.position
  let selection ← nameRange declaration.position mainName
  return ⟨⟨mainName, .function, range, selection, none⟩, none⟩

end Outline

/-- The outline of a program over the text of a document. -/
def Program.outline (program : Program) (source : String) :
    Except OutlineFault (List OutlineEntry) := do
  let lines := Text.lines source
  let structs ← program.structs.mapM (Outline.ofStruct lines)
  let functions ← program.functions.mapM (Outline.ofFunction lines)
  let main ← program.main?.toList.mapM (Outline.ofMain lines)
  return structs ++ functions ++ main

end StructLang
