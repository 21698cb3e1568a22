import StructLang.Proofs.FromSource
import StructLang.Proofs.Relabeling.Nodes
import StructLang.Proofs.Relabeling.ReadingPrograms

/-!
# Relabeling twice

Relabeling a tree twice is relabeling it once. All names of a program that was read from a text are
plain, so a relabeling that changes other names only leaves it as it is. It follows that relabelings
which agree on plain names agree on all programs from texts.
-/

namespace StructLang

namespace Relabeling

/-- The change of labels by one relabeling and then by another one. -/
def andThen (first second : Relabeling) : Relabeling where
  name := second.name ∘ first.name
  line := second.line ∘ first.line
  column := second.column ∘ first.column
  source := first.source
  target := second.target

end Relabeling

variable (first second : Relabeling)

theorem NodeKind.rename_rename
    (change otherChange : String → String) (name : String) (kind : NodeKind) :
    kind.rename otherChange (kind.rename change name) =
      kind.rename (otherChange ∘ change) name := by
  simp only [NodeKind.rename]
  split <;> rfl

namespace Ty

variable (change otherChange : String → String)

mutual

theorem rename_rename : (type : Ty) →
    (type.rename change).rename otherChange = type.rename (otherChange ∘ change)
  | int | bool | void | unknown | generic | struct _ => rfl
  | list element => by rw [rename, rename, rename_rename element, rename]
  | fptr parameters result => by
      rw [rename, rename, renameAll_renameAll parameters, rename_rename result, rename]

theorem renameAll_renameAll : (types : List Ty) →
    renameAll otherChange (renameAll change types) = renameAll (otherChange ∘ change) types
  | [] => rfl
  | head :: tail => by
      rw [renameAll, renameAll, rename_rename head, renameAll_renameAll tail, renameAll]

end

end Ty

namespace Stray

mutual

theorem relabel_relabel : (stray : Stray) →
    (stray.relabel first).relabel second = stray.relabel (first.andThen second)
  | node kind name position below => by
      simp only [relabel, NodeKind.rename_rename, relabelAll_relabelAll below]
      rfl

theorem relabelAll_relabelAll : (strays : List Stray) →
    relabelAll second (relabelAll first strays) = relabelAll (first.andThen second) strays
  | [] => rfl
  | head :: tail => by
      rw [relabelAll, relabelAll, relabel_relabel head, relabelAll_relabelAll tail, relabelAll]

end

end Stray

namespace Expr

mutual

theorem relabel_relabel : (expression : Expr) →
    (expression.relabel first).relabel second = expression.relabel (first.andThen second)
  | integer .. | boolean .. | name .. | absent => rfl
  | group items _ => by
      simp only [relabel, relabelAll_relabelAll items]
      rfl
  | binary left _ right _ => by
      simp only [relabel, relabel_relabel left, relabel_relabel right]
      rfl
  | unary _ operand _ => by
      simp only [relabel, relabel_relabel operand]
      rfl
  | index list place _ => by
      simp only [relabel, relabel_relabel list, relabel_relabel place]
      rfl
  | member owner _ _ => by
      simp only [relabel, relabel_relabel owner]
      rfl
  | size list _ => by
      simp only [relabel, relabel_relabel list]
      rfl
  | append list element _ => by
      simp only [relabel, relabel_relabel list, relabel_relabel element]
      rfl
  | call callee arguments _ => by
      simp only [relabel, relabel_relabel callee, relabelAll_relabelAll arguments]
      rfl
  | stray node => congrArg stray (node.relabel_relabel first second)

theorem relabelAll_relabelAll : (expressions : List Expr) →
    relabelAll second (relabelAll first expressions) =
      relabelAll (first.andThen second) expressions
  | [] => rfl
  | head :: tail => by
      rw [relabelAll, relabelAll, relabel_relabel head, relabelAll_relabelAll tail, relabelAll]

end

end Expr

theorem VariableDecl.relabel_relabel
    (declaration : VariableDecl) :
    (declaration.relabel first).relabel second = declaration.relabel (first.andThen second) := by
  simp only [relabel, Ty.rename_rename]
  rfl

theorem Region.relabel_relabel
    (region : Region) :
    Region.relabel second (region.relabel first) = region.relabel (first.andThen second) := by
  simp only [relabel, List.map_map]
  congr
  funext declaration
  exact declaration.relabel_relabel first second

namespace Stmt

mutual

theorem relabel_relabel : (statement : Stmt) →
    (statement.relabel first).relabel second = statement.relabel (first.andThen second)
  | absent => rfl
  | block statements _ => by
      simp only [relabel, relabelAll_relabelAll statements]
      rfl
  | declare declared _ => by
      simp only [relabel, Region.relabel_relabel]
      rfl
  | assign target value _ => by
      simp only [relabel, Expr.relabel_relabel]
      rfl
  | branch condition thenBody elseBody _ => by
      simp only [relabel, Expr.relabel_relabel, relabel_relabel thenBody,
        relabel_relabel elseBody]
      rfl
  | loop condition body _ => by
      simp only [relabel, Expr.relabel_relabel, relabel_relabel body]
      rfl
  | display _ _ | append _ _ | size _ _ | call _ _ => by
      simp only [relabel, Expr.relabel_relabel]
      rfl
  | giveBack value? _ => by
      simp only [relabel, Option.map_map, Function.comp_def, Expr.relabel_relabel]
      rfl
  | accessor _ _ _ _ setBody getBody _ => by
      simp only [relabel, Ty.rename_rename, Region.relabel_relabel, VariableDecl.relabel_relabel,
        relabel_relabel setBody, relabel_relabel getBody]
      rfl
  | stray node => congrArg stray (node.relabel_relabel first second)

theorem relabelAll_relabelAll : (statements : List Stmt) →
    relabelAll second (relabelAll first statements) =
      relabelAll (first.andThen second) statements
  | [] => rfl
  | head :: tail => by
      rw [relabelAll, relabelAll, relabel_relabel head, relabelAll_relabelAll tail, relabelAll]

end

end Stmt

theorem StructDecl.relabel_relabel
    (declaration : StructDecl) :
    (declaration.relabel first).relabel second = declaration.relabel (first.andThen second) := by
  simp only [relabel, Stmt.relabelAll_relabelAll]
  rfl

theorem FunctionDecl.relabel_relabel
    (declaration : FunctionDecl) :
    (declaration.relabel first).relabel second = declaration.relabel (first.andThen second) := by
  simp only [relabel, Ty.rename_rename, Region.relabel_relabel, Stmt.relabel_relabel]
  rfl

theorem MainDecl.relabel_relabel
    (declaration : MainDecl) :
    (declaration.relabel first).relabel second = declaration.relabel (first.andThen second) := by
  simp only [relabel, Stmt.relabel_relabel]
  rfl

theorem Program.relabel_relabel
    (program : Program) :
    (program.relabel first).relabel second = program.relabel (first.andThen second) := by
  simp only [relabel, List.map_map, Option.map_map, Function.comp_def, StructDecl.relabel_relabel,
    FunctionDecl.relabel_relabel, MainDecl.relabel_relabel]
  rfl

/-! ## Plain names alone -/

/-- A change of names and of nothing else. -/
def Relabeling.ofNames (change : String → String) : Relabeling := ⟨change, id, id, [], []⟩

/-- Every plain name, and the empty name instead of any other one. -/
def plainPart (name : String) : String := if '@' ∈ name.toList then "" else name

theorem plainPart_of_plain
    {name : String} (plain : PlainName name) : plainPart name = name :=
  if_neg plain

theorem plainName_plainPart
    (name : String) : PlainName (plainPart name) := by
  rw [plainPart]
  split
  case isTrue => exact List.not_mem_nil
  case isFalse plain => exact plain

theorem plainPart_eq_iff
    {name word : String} (plain : PlainName word) (notEmpty : word ≠ "") :
    plainPart name = word ↔ name = word := by
  rw [plainPart]
  split
  case isTrue isSign =>
    refine iff_of_false notEmpty.symm ?_
    rintro rfl
    exact plain isSign
  case isFalse => exact Iff.rfl

theorem keepsReading_plainPart : (Relabeling.ofNames plainPart).KeepsReading where
  append _ := plainPart_eq_iff (by simp [PlainName]) (by decide)
  size _ := plainPart_eq_iff (by simp [PlainName]) (by decide)
  nowhere := rfl

theorem Grammar.PlainNames.map_relabel
    {tokens : List Token} (plain : Grammar.PlainNames tokens) :
    tokens.map (Token.relabel (.ofNames plainPart)) = tokens := by
  refine (List.map_congr_left fun token isThere => ?_).trans (List.map_id tokens)
  rw [Token.relabel]
  split
  case isTrue isName =>
    exact congrArg (Token.mk token.kind · token.position)
      (plainPart_of_plain (plain token isThere isName))
  case isFalse => rfl

/-- All names of a program from a source text are plain. -/
theorem Program.relabel_plainPart
    {source : String} {program : Program} (isRead : Program.ofSource source = .ok program) :
    program.relabel (.ofNames plainPart) = program := by
  obtain ⟨tokens, scanned, isProgram⟩ := ofTokens_of_ofSource isRead
  have plain := Scan.plainNames_of_splits (Scan.splits_of_scan scanned)
  have relabeled := ofTokens_relabel keepsReading_plainPart tokens
  rw [plain.map_relabel, isProgram] at relabeled
  exact (Except.ok.inj relabeled).symm

/-- Relabelings that agree on plain names agree on a program from a source text. -/
theorem Program.relabel_congr
    {source : String} {program : Program} (isRead : Program.ofSource source = .ok program)
    {change otherChange : String → String}
    (agree : ∀ name, PlainName name → change name = otherChange name) :
    program.relabel (.ofNames change) = program.relabel (.ofNames otherChange) := by
  have sameAfter : (Relabeling.ofNames plainPart).andThen (.ofNames change) =
      (Relabeling.ofNames plainPart).andThen (.ofNames otherChange) := by
    have sameNames : change ∘ plainPart = otherChange ∘ plainPart :=
      funext fun name => agree _ (plainName_plainPart name)
    simp only [Relabeling.andThen, Relabeling.ofNames, sameNames]
  rw [← relabel_plainPart isRead, relabel_relabel, relabel_relabel, sameAfter]

/-- The name of a variable that a node of such a program declares is plain. -/
theorem Program.plainName_of_mem_nodes
    {source : String} {program : Program} (isRead : Program.ofSource source = .ok program)
    {node : Node} (isNode : node ∈ program.nodes) (isVariable : node.kind = .variableDecl) :
    PlainName node.name := by
  have inPlace : (Relabeling.ofNames plainPart).InPlace := ⟨rfl, rfl⟩
  rw [← relabel_plainPart isRead, nodes_relabel inPlace] at isNode
  obtain ⟨written, -, rfl⟩ := List.mem_map.mp isNode
  have isName : (written.relabel (.ofNames plainPart)).name = plainPart written.name := by
    change written.kind = .variableDecl at isVariable
    rw [Node.relabel, isVariable]
    rfl
  rw [isName]
  exact plainName_plainPart written.name

end StructLang
