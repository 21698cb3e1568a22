import StructLang.Proofs.Check.Names
import StructLang.Proofs.Check.Trace
import StructLang.Proofs.Scope.Region
import StructLang.Program.Basic

/-!
# Relabeling trees

A tree carries labels that say nothing about its shape: names, lines and columns, and the addresses
of its nodes. A relabeling changes all of them alike, in the tree and in what a check finds in it.
-/

namespace StructLang

/-- A change of labels: of names, lines and columns, and of the addresses below a node, which move
from one place to another. -/
structure Relabeling where
  name : String → String
  line : Int → Int
  column : Int → Int
  source : Address
  target : Address

namespace Relabeling

variable (relabeling : Relabeling)

/-- The new label of a position. -/
def position (place : Position) : Position :=
  ⟨relabeling.line place.line, relabeling.column place.column⟩

/-- The new label of an address below the place from which addresses move. -/
def address (place : Address) : Address :=
  place.take (place.length - relabeling.source.length) ++ relabeling.target

/-- Whether addresses stay where they are. -/
structure InPlace : Prop where
  source : relabeling.source = []
  target : relabeling.target = []

/-- What a relabeling may do with names: names stay apart, and the sign and number of a made-up name
stay as they are. -/
structure Faithful : Prop where
  injective : Function.Injective relabeling.name
  numbered : ∀ count, relabeling.name (numbered count) = numbered count
  suffixed : ∀ name count, PlainName name →
    relabeling.name (suffixed name count) = suffixed (relabeling.name name) count

variable {relabeling}

theorem address_append
    (way : Address) :
    relabeling.address (way ++ relabeling.source) = way ++ relabeling.target := by
  rw [address, List.length_append, Nat.add_sub_cancel, List.take_left]

theorem InPlace.address_eq
    (inPlace : relabeling.InPlace) (place : Address) : relabeling.address place = place := by
  simp [address, inPlace.source, inPlace.target]

end Relabeling

/-! ## Types -/

namespace Ty

variable (change : String → String)

mutual

/-- A type in which the names of structs are changed. -/
def rename : Ty → Ty
  | int => int
  | bool => bool
  | void => void
  | unknown => unknown
  | generic => generic
  | list element => list (rename element)
  | fptr parameters result => fptr (renameAll parameters) (rename result)
  | struct name => struct (change name)

/-- Types in which the names of structs are changed. -/
def renameAll : List Ty → List Ty
  | [] => []
  | head :: tail => rename head :: renameAll tail

end

variable {change}

theorem renameAll_eq
    (types : List Ty) : renameAll change types = types.map (rename change) := by
  induction types with
  | nil => rfl
  | cons head tail inductionHypothesis => rw [renameAll, inductionHypothesis, List.map_cons]

@[simp] theorem isUnknown_rename
    (type : Ty) : (type.rename change).isUnknown = type.isUnknown := by
  cases type <;> rfl

@[simp] theorem rename_eq_int
    {type : Ty} : type.rename change = .int ↔ type = .int := by
  cases type <;> simp [rename]

@[simp] theorem rename_eq_bool
    {type : Ty} : type.rename change = .bool ↔ type = .bool := by
  cases type <;> simp [rename]

@[simp] theorem sameKind_rename
    (left right : Ty) :
    sameKind (left.rename change) (right.rename change) = sameKind left right := by
  cases left <;> cases right <;> rfl

mutual

theorem rename_injective
    (injective : Function.Injective change) :
    (left right : Ty) → left.rename change = right.rename change → left = right
  | int, right, same | bool, right, same | void, right, same | unknown, right, same
  | generic, right, same => by cases right <;> simp_all [rename]
  | list element, right, same => by
      cases right <;> simp only [rename, reduceCtorEq, list.injEq] at same
      rw [rename_injective injective _ _ same]
  | fptr parameters result, right, same => by
      cases right <;> simp only [rename, reduceCtorEq, fptr.injEq] at same
      rw [renameAll_injective injective _ _ same.1, rename_injective injective _ _ same.2]
  | struct name, right, same => by
      cases right <;> simp only [rename, reduceCtorEq, struct.injEq] at same
      rw [injective same]

theorem renameAll_injective
    (injective : Function.Injective change) :
    (left right : List Ty) → renameAll change left = renameAll change right → left = right
  | [], right, same => by cases right <;> simp_all [renameAll]
  | head :: tail, right, same => by
      cases right <;> simp only [renameAll, reduceCtorEq, List.cons.injEq] at same
      rw [rename_injective injective _ _ same.1, renameAll_injective injective _ _ same.2]

end

theorem rename_inj
    (injective : Function.Injective change) {left right : Ty} :
    left.rename change = right.rename change ↔ left = right :=
  ⟨rename_injective injective left right, congrArg (rename change)⟩

mutual

theorem rename_id : (type : Ty) → type.rename id = type
  | int | bool | void | unknown | generic | struct _ => rfl
  | list element => by rw [rename, rename_id element]
  | fptr parameters result => by rw [rename, renameAll_id parameters, rename_id result]

theorem renameAll_id : (types : List Ty) → renameAll id types = types
  | [] => rfl
  | head :: tail => by rw [renameAll, rename_id head, renameAll_id tail]

end

end Ty

/-! ## Nodes -/

/-- Whether nodes of a kind have a name. -/
@[simp] def NodeKind.isNamed : NodeKind → Bool
  | variableDecl | structDecl | functionDecl | accessorDecl | nameExpr | memberExpr => true
  | _ => false

/-- The new name of a node of some kind, which is empty if it has none. -/
@[simp] def NodeKind.rename (change : String → String) (name : String) (kind : NodeKind) : String :=
  if kind.isNamed then change name else name

/-- A node with other labels. -/
def Node.relabel (relabeling : Relabeling) (node : Node) : Node :=
  ⟨relabeling.address node.address, node.kind, node.kind.rename relabeling.name node.name,
    relabeling.position node.position⟩

namespace Stray

mutual

/-- A stray node with other labels. -/
def relabel (relabeling : Relabeling) : Stray → Stray
  | node kind name position below =>
      node kind (kind.rename relabeling.name name) (relabeling.position position)
        (relabelAll relabeling below)

/-- Stray nodes with other labels. -/
def relabelAll (relabeling : Relabeling) : List Stray → List Stray
  | [] => []
  | head :: tail => relabel relabeling head :: relabelAll relabeling tail

end

end Stray

/-! ## Expressions -/

namespace Expr

mutual

/-- An expression with other labels. -/
def relabel (relabeling : Relabeling) : Expr → Expr
  | integer value position => integer value (relabeling.position position)
  | boolean value position => boolean value (relabeling.position position)
  | name called position => name (relabeling.name called) (relabeling.position position)
  | group items position => group (relabelAll relabeling items) (relabeling.position position)
  | binary left operator right position =>
      binary (relabel relabeling left) operator (relabel relabeling right)
        (relabeling.position position)
  | unary operator operand position =>
      unary operator (relabel relabeling operand) (relabeling.position position)
  | index list place position =>
      index (relabel relabeling list) (relabel relabeling place) (relabeling.position position)
  | member owner called position =>
      member (relabel relabeling owner) (relabeling.name called) (relabeling.position position)
  | size list position => size (relabel relabeling list) (relabeling.position position)
  | append list element position =>
      append (relabel relabeling list) (relabel relabeling element) (relabeling.position position)
  | call callee arguments position =>
      call (relabel relabeling callee) (relabelAll relabeling arguments)
        (relabeling.position position)
  | stray node => stray (node.relabel relabeling)
  | absent => absent

/-- Expressions with other labels. -/
def relabelAll (relabeling : Relabeling) : List Expr → List Expr
  | [] => []
  | head :: tail => relabel relabeling head :: relabelAll relabeling tail

end

end Expr

/-! ## Statements -/

/-- A declaration with other labels. -/
def VariableDecl.relabel (relabeling : Relabeling) (declaration : VariableDecl) : VariableDecl :=
  ⟨relabeling.name declaration.name, declaration.type.rename relabeling.name,
    relabeling.position declaration.position⟩

/-- A region with other labels. -/
def Region.relabel (relabeling : Relabeling) (region : Region) : Region :=
  region.map (VariableDecl.relabel relabeling)

namespace Stmt

mutual

/-- A statement with other labels. -/
def relabel (relabeling : Relabeling) : Stmt → Stmt
  | block statements position =>
      block (relabelAll relabeling statements) (relabeling.position position)
  | declare declared position =>
      declare (Region.relabel relabeling declared) (relabeling.position position)
  | assign target value position =>
      assign (target.relabel relabeling) (value.relabel relabeling) (relabeling.position position)
  | branch condition thenBody elseBody position =>
      branch (condition.relabel relabeling) (relabel relabeling thenBody)
        (relabel relabeling elseBody) (relabeling.position position)
  | loop condition body position =>
      loop (condition.relabel relabeling) (relabel relabeling body)
        (relabeling.position position)
  | display argument position =>
      display (argument.relabel relabeling) (relabeling.position position)
  | append expression position =>
      append (expression.relabel relabeling) (relabeling.position position)
  | size expression position =>
      size (expression.relabel relabeling) (relabeling.position position)
  | call expression position =>
      call (expression.relabel relabeling) (relabeling.position position)
  | giveBack value? position =>
      giveBack (value?.map (Expr.relabel relabeling)) (relabeling.position position)
  | accessor name type parameters field setBody getBody position =>
      accessor (relabeling.name name) (type.rename relabeling.name)
        (Region.relabel relabeling parameters) (field.relabel relabeling)
        (relabel relabeling setBody) (relabel relabeling getBody) (relabeling.position position)
  | stray node => stray (node.relabel relabeling)
  | absent => absent

/-- Statements with other labels. -/
def relabelAll (relabeling : Relabeling) : List Stmt → List Stmt
  | [] => []
  | head :: tail => relabel relabeling head :: relabelAll relabeling tail

end

theorem relabelAll_eq
    {relabeling : Relabeling} (statements : List Stmt) :
    relabelAll relabeling statements = statements.map (relabel relabeling) := by
  induction statements with
  | nil => rfl
  | cons head tail inductionHypothesis => rw [relabelAll, inductionHypothesis, List.map_cons]

end Stmt

/-! ## Programs -/

/-- A struct with other labels. -/
def StructDecl.relabel (relabeling : Relabeling) (declaration : StructDecl) : StructDecl :=
  ⟨relabeling.name declaration.name, Stmt.relabelAll relabeling declaration.members,
    relabeling.position declaration.bodyPosition, relabeling.position declaration.position⟩

/-- A function with other labels. -/
def FunctionDecl.relabel (relabeling : Relabeling) (declaration : FunctionDecl) : FunctionDecl :=
  ⟨relabeling.name declaration.name, declaration.result.rename relabeling.name,
    Region.relabel relabeling declaration.parameters, declaration.body.relabel relabeling,
    relabeling.position declaration.position⟩

/-- A main body with other labels. -/
def MainDecl.relabel (relabeling : Relabeling) (declaration : MainDecl) : MainDecl :=
  ⟨declaration.body.relabel relabeling, relabeling.position declaration.position⟩

/-- A program with other labels. -/
def Program.relabel (relabeling : Relabeling) (program : Program) : Program :=
  ⟨program.structs.map (StructDecl.relabel relabeling),
    program.functions.map (FunctionDecl.relabel relabeling),
    program.main?.map (MainDecl.relabel relabeling), relabeling.position program.position⟩

/-! ## What is found -/

/-- The names of a diagnostic of some kind, changed unless they are words for operators. -/
def DiagnosticKind.rename (change : String → String) (names : List String) :
    DiagnosticKind → List String
  | unsupportedOperand => names
  | _ => names.map change

theorem DiagnosticKind.rename_id
    (kind : DiagnosticKind) (names : List String) : kind.rename id names = names := by
  cases kind with
  | unsupportedOperand => rfl
  | _ => exact List.map_id names

/-- A verdict in which names are changed. -/
def Verdict.rename (change : String → String) : Verdict → Verdict
  | type found => type (found.rename change)
  | fault kind names => fault kind (kind.rename change names)

/-- A diagnostic with other labels. -/
def Diagnostic.relabel (relabeling : Relabeling) (diagnostic : Diagnostic) : Diagnostic :=
  ⟨diagnostic.kind, relabeling.line diagnostic.line,
    diagnostic.kind.rename relabeling.name diagnostic.names⟩

/-- A report with other labels. -/
def Report.relabel (relabeling : Relabeling) (report : Report) : Report :=
  ⟨report.address?.map relabeling.address, report.diagnostic.relabel relabeling⟩

/-- A finding with other labels. -/
def Finding.relabel (relabeling : Relabeling) : Finding → Finding
  | typed address type => typed (relabeling.address address) (type.rename relabeling.name)
  | reported report => reported (report.relabel relabeling)
  | renamed address name => renamed (relabeling.address address) (relabeling.name name)
  | resultLost address => resultLost (relabeling.address address)
  | containing name => containing (relabeling.name name)
  | contained part whole => contained (relabeling.name part) (relabeling.name whole)

variable {relabeling : Relabeling} {change : String → String}

theorem Finding.relabel_complaint
    {kind : DiagnosticKind} {way : Address} {position : Position} {names : List String} :
    (complaint kind (way ++ relabeling.source) position names).relabel relabeling =
      complaint kind (way ++ relabeling.target) (relabeling.position position)
        (kind.rename relabeling.name names) := by
  simp only [complaint, relabel, Report.relabel, Diagnostic.relabel, Option.map_some,
    Relabeling.address_append, Relabeling.position]

/-- What is found by a verdict with other labels is what was found, with other labels. -/
theorem Finding.settled_rename
    (way : Address) (position : Position) (verdict : Verdict) :
    settled (way ++ relabeling.target) (relabeling.position position)
        (verdict.rename relabeling.name) =
      (settled (way ++ relabeling.source) position verdict).map (relabel relabeling) := by
  cases verdict with
  | type found =>
      simp only [Verdict.rename, settled, List.map_cons, List.map_nil, relabel,
        Relabeling.address_append]
  | fault kind names =>
      simp only [Verdict.rename, settled, List.map_cons, List.map_nil, relabel_complaint]
      simp only [relabel, Relabeling.address_append, Ty.rename]

@[simp] theorem Verdict.ty_rename
    (verdict : Verdict) : (verdict.rename change).ty = verdict.ty.rename change := by
  cases verdict <;> rfl

end StructLang
