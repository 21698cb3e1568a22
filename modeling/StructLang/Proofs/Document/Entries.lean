import StructLang.Proofs.Document.Outlines
import StructLang.Proofs.Positions

/-!
# What an outline shows

Where all nodes of a program have lines and columns counted from one, an outline shows ranges that
can be told from their positions and from the lines of the text: the outline is made of these
ranges, unless a place is beyond the limits.

- `Program.outlined` : the entries of an outline, without the limits.
- `Program.fits_outline` : an outline that can be made has these entries.
-/

namespace StructLang

/-- A position is counted from one. -/
structure Position.IsCounted (position : Position) : Prop where
  line_pos : 1 ≤ position.line
  column_pos : 1 ≤ position.column

namespace Outline

variable {position : Position}

/-! ## Ranges -/

/-- The place of a position. -/
def startOf (position : Position) : DocumentPlace := ⟨position.line - 1, position.column - 1⟩

/-- The end of a line of a document. -/
def endOfLine (lines : List String) (number : Int) : DocumentPlace :=
  ⟨number, lineLength lines number⟩

/-- The line up to which something in braces is shown: the one on which the search for its closing
brace ends, or else its first one. -/
def lastLine (lines : List String) (position : Position) : Int :=
  match closingBraceLine? lines (position.line - 1) with
  | .ok (some number) => number
  | _ => position.line - 1

/-- From a position up to the end of a line. -/
def rangeTo (lines : List String) (position : Position) (number : Int) : DocumentRange :=
  ⟨startOf position, endOfLine lines number⟩

/-- From a position over as many columns as a name has characters. -/
def rangeOver (position : Position) (name : String) : DocumentRange :=
  ⟨startOf position, ⟨position.line - 1, position.column - 1 + name.length⟩⟩

theorem fits_startOf
    (isCounted : position.IsCounted) : Fits (· = startOf position) (placeOf position) := by
  have isLine := DocumentPlace.fromOne_eq isCounted.line_pos
  have isColumn := DocumentPlace.fromOne_eq isCounted.column_pos
  change Fits _ (place (DocumentPlace.fromOne position.line)
    (DocumentPlace.fromOne position.column))
  rw [isLine, isColumn]
  exact fits_place (Int.sub_nonneg.mpr isCounted.line_pos)
    (Int.sub_nonneg.mpr isCounted.column_pos)

theorem fits_lineRange
    (lines : List String) (isCounted : position.IsCounted) :
    Fits (· = rangeTo lines position (position.line - 1)) (lineRange lines position) := by
  refine (fits_startOf isCounted).bind ?_
  rintro _ rfl
  have isLine := DocumentPlace.fromOne_eq isCounted.line_pos
  have lineNonneg : 0 ≤ position.line - 1 := Int.sub_nonneg.mpr isCounted.line_pos
  rw [isLine]
  refine (fits_place lineNonneg (lineLength_nonneg _ _)).bind ?_
  rintro _ rfl
  rfl

theorem lastLine_ge
    (lines : List String) (isCounted : position.IsCounted) :
    position.line - 1 ≤ lastLine lines position := by
  have startNonneg : 0 ≤ position.line - 1 := Int.sub_nonneg.mpr isCounted.line_pos
  obtain ⟨found?, isFound, notBefore⟩ := closingBraceLine?_spec lines startNonneg
  rw [lastLine, isFound]
  cases found? with
  | none => exact Int.le_refl _
  | some number => exact notBefore number rfl

theorem fits_bracedRange
    (lines : List String) (isCounted : position.IsCounted) :
    Fits (· = rangeTo lines position (lastLine lines position)) (bracedRange lines position) := by
  have startNonneg : 0 ≤ position.line - 1 := Int.sub_nonneg.mpr isCounted.line_pos
  have notBefore := lastLine_ge lines isCounted
  obtain ⟨found?, isFound, -⟩ := closingBraceLine?_spec lines startNonneg
  rw [lastLine, isFound] at notBefore ⊢
  refine (fits_startOf isCounted).bind ?_
  rintro _ rfl
  rw [isFound]
  cases found? with
  | none => exact fits_lineRange lines isCounted
  | some number =>
      refine (fits_place (Int.le_trans startNonneg notBefore) (lineLength_nonneg _ _)).bind ?_
      rintro _ rfl
      rfl

theorem fits_nameRange
    (name : String) (isCounted : position.IsCounted) :
    Fits (· = rangeOver position name) (nameRange position name) := by
  refine (fits_startOf isCounted).bind ?_
  rintro _ rfl
  have lineNonneg : 0 ≤ position.line - 1 := Int.sub_nonneg.mpr isCounted.line_pos
  have columnNonneg : 0 ≤ position.column - 1 + name.length :=
    Int.add_nonneg (Int.sub_nonneg.mpr isCounted.column_pos) (Int.natCast_nonneg _)
  refine (fits_place lineNonneg columnNonneg).bind ?_
  rintro _ rfl
  rfl

/-! ## Items and entries -/

/-- The item of a field. -/
def fieldItem (lines : List String) (field : VariableDecl) : OutlineItem :=
  ⟨field.name, .field, rangeTo lines field.position (field.position.line - 1),
    rangeOver field.position field.name, some field.type.render⟩

/-- The items of a member of a struct. -/
def memberItems (lines : List String) : Stmt → List OutlineItem
  | .declare fields _ => fields.map (fieldItem lines)
  | .accessor name type parameters field _ _ position =>
      [⟨name, .property, rangeTo lines position (lastLine lines position),
        rangeOver field.position name, some (signature parameters type)⟩]
  | _ => []

/-- The entry of a struct. -/
def structEntry (lines : List String) (declaration : StructDecl) : OutlineEntry :=
  ⟨⟨declaration.name, .struct,
      rangeTo lines declaration.position (lastLine lines declaration.position),
      rangeOver declaration.position declaration.name, none⟩,
    some (declaration.members.flatMap (memberItems lines))⟩

/-- The entry of a function. -/
def functionEntry (lines : List String) (declaration : FunctionDecl) : OutlineEntry :=
  ⟨⟨declaration.name, .function,
      rangeTo lines declaration.position (lastLine lines declaration.position),
      rangeOver declaration.position declaration.name,
      some (signature declaration.parameters declaration.result)⟩, none⟩

/-- The entry of a main body. -/
def mainEntry (lines : List String) (declaration : MainDecl) : OutlineEntry :=
  ⟨⟨mainName, .function,
      rangeTo lines declaration.position (lastLine lines declaration.position),
      rangeOver declaration.position mainName, none⟩, none⟩

theorem fits_mapM
    {alpha beta : Type} {part : alpha → Except OutlineFault beta} {shown : alpha → beta}
    {items : List alpha} (fit : ∀ item ∈ items, Fits (· = shown item) (part item)) :
    Fits (· = items.map shown) (items.mapM part) := by
  induction items with
  | nil => exact rfl
  | cons head tail inductionHypothesis =>
      obtain ⟨ofHead, ofTail⟩ := List.forall_mem_cons.mp fit
      rw [List.mapM_cons]
      refine ofHead.bind ?_
      rintro _ rfl
      refine (inductionHypothesis ofTail).bind ?_
      rintro _ rfl
      rfl

theorem fits_ofField
    (lines : List String) {field : VariableDecl} (isCounted : field.position.IsCounted) :
    Fits (· = fieldItem lines field) (ofField lines field) := by
  refine (fits_lineRange lines isCounted).bind ?_
  rintro _ rfl
  refine (fits_nameRange field.name isCounted).bind ?_
  rintro _ rfl
  rfl

theorem forall_of_nodesOf
    {holds : Position → Prop} {declared : List VariableDecl} {address : Address} {index : Nat}
    (hold : ∀ node ∈ VariableDecl.nodesOf address index declared, holds node.position) :
    ∀ declaration ∈ declared, holds declaration.position := by
  induction declared generalizing index with
  | nil => exact List.forall_mem_nil _
  | cons head tail inductionHypothesis =>
      obtain ⟨ofHead, ofTail⟩ := List.forall_mem_cons.mp hold
      exact List.forall_mem_cons.mpr ⟨ofHead, inductionHypothesis ofTail⟩

theorem fits_ofMember
    (lines : List String) {member : Stmt} {address : Address}
    (areCounted : ∀ node ∈ member.nodes address, node.position.IsCounted) :
    Fits (· = memberItems lines member) (ofMember lines member) := by
  cases member with
  | declare fields =>
      have ofFields := forall_of_nodesOf (List.forall_mem_cons.mp areCounted).2
      exact fits_mapM fun field isField => fits_ofField lines (ofFields field isField)
  | accessor name type parameters field setBody getBody position =>
      obtain ⟨isCounted, others⟩ := List.forall_mem_cons.mp areCounted
      refine (fits_bracedRange lines isCounted).bind ?_
      rintro _ rfl
      refine (fits_nameRange name ?_).bind ?_
      · exact others (field.node (1 :: address)) (by simp)
      · rintro _ rfl
        rfl
  | _ => exact rfl

theorem fits_ofStruct
    (lines : List String) {declaration : StructDecl}
    (stands : declaration.StandsWithin Position.IsCounted) :
    Fits (· = structEntry lines declaration) (ofStruct lines declaration) := by
  obtain ⟨isCounted, stands⟩ := List.forall_mem_cons.mp (stands [])
  have ofMembers := forall_nodes_of_nodesOf (List.forall_mem_cons.mp stands).2
  refine (fits_bracedRange lines isCounted).bind ?_
  rintro _ rfl
  refine (fits_nameRange declaration.name isCounted).bind ?_
  rintro _ rfl
  have fitMembers : ∀ member ∈ declaration.members,
      Fits (· = memberItems lines member) (ofMember lines member) := by
    intro member isMember
    obtain ⟨address, areCounted⟩ := ofMembers member isMember
    exact fits_ofMember lines areCounted
  refine (fits_mapM fitMembers).bind ?_
  rintro _ rfl
  rfl

theorem fits_ofFunction
    (lines : List String) {declaration : FunctionDecl}
    (isCounted : declaration.position.IsCounted) :
    Fits (· = functionEntry lines declaration) (ofFunction lines declaration) := by
  refine (fits_bracedRange lines isCounted).bind ?_
  rintro _ rfl
  refine (fits_nameRange declaration.name isCounted).bind ?_
  rintro _ rfl
  rfl

theorem fits_ofMain
    (lines : List String) {declaration : MainDecl}
    (isCounted : declaration.position.IsCounted) :
    Fits (· = mainEntry lines declaration) (ofMain lines declaration) := by
  refine (fits_bracedRange lines isCounted).bind ?_
  rintro _ rfl
  refine (fits_nameRange mainName isCounted).bind ?_
  rintro _ rfl
  rfl

end Outline

/-! ## The whole -/

/-- What an outline of a program shows over the lines of a text. -/
def Program.outlined (lines : List String) (program : Program) : List OutlineEntry :=
  program.structs.map (Outline.structEntry lines) ++
    program.functions.map (Outline.functionEntry lines) ++
    program.main?.toList.map (Outline.mainEntry lines)

/-- The outline of a program that was read from a text shows these entries, if no place is beyond
the limits. -/
theorem Program.fits_outline
    {source : String} {program : Program} (isRead : ofSource source = .ok program) :
    Outline.Fits (· = program.outlined (Text.lines source)) (program.outline source) := by
  have stands : program.StandsWithin Position.IsCounted :=
    (standsWithin_isIn isRead).mono fun _ isIn => ⟨isIn.line_pos, isIn.column_pos⟩
  refine (Outline.fits_mapM fun declaration isThere =>
    Outline.fits_ofStruct _ (stands.structs declaration isThere)).bind ?_
  rintro _ rfl
  refine (Outline.fits_mapM fun declaration isThere => Outline.fits_ofFunction _
    (stands.functions declaration isThere [] _ List.mem_cons_self)).bind ?_
  rintro _ rfl
  refine (Outline.fits_mapM fun declaration isThere => Outline.fits_ofMain _
    (stands.main declaration (Option.mem_toList.mp isThere) [] _ List.mem_cons_self)).bind ?_
  rintro _ rfl
  rfl

end StructLang
