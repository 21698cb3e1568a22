import StructLang.Proofs.Check.Visits
import StructLang.Proofs.Relabeling.Expressions

/-!
# Relabeled statements

A statement declares what it declared, relabeled, so nested regions keep their shape. If a signature
speaks of changed names as another one speaks of the old ones, then what is found at a relabeled
statement is what was found at the statement, relabeled.
-/

namespace StructLang

variable {relabeling : Relabeling}

/-! ## Regions -/

namespace Region

@[simp] theorem relabel_nil : relabel relabeling [] = [] := rfl

@[simp] theorem relabel_cons
    (head : VariableDecl) (tail : Region) :
    relabel relabeling (head :: tail) = head.relabel relabeling :: relabel relabeling tail := rfl

@[simp] theorem relabel_append
    (earlier later : Region) :
    relabel relabeling (earlier ++ later) =
      relabel relabeling earlier ++ relabel relabeling later := List.map_append

theorem mem_names_relabel
    (injective : Function.Injective relabeling.name) {region : Region} {name : String} :
    relabeling.name name ∈ names (relabel relabeling region) ↔ name ∈ region.names := by
  simp [names, relabel, VariableDecl.relabel, injective.eq_iff]

theorem declarationOf?_relabel
    (injective : Function.Injective relabeling.name) (region : Region) (name : String) :
    declarationOf? (relabel relabeling region) (relabeling.name name) =
      (region.declarationOf? name).map (VariableDecl.relabel relabeling) := by
  simp only [declarationOf?, relabel, List.find?_map, Function.comp_def, VariableDecl.relabel,
    injective.eq_iff]

theorem nearest?_relabel
    (injective : Function.Injective relabeling.name) (regions : List Region) (name : String) :
    nearest? (regions.map (relabel relabeling)) (relabeling.name name) =
      (nearest? regions name).map (VariableDecl.relabel relabeling) := by
  induction regions with
  | nil => rfl
  | cons head tail inductionHypothesis =>
      simp only [nearest?, List.map_cons, List.findSome?_cons] at inductionHypothesis ⊢
      rw [declarationOf?_relabel injective, inductionHypothesis]
      cases head.declarationOf? name <;> rfl

end Region

/-! ## Signatures -/

/-- A signature says of changed names what another one says of the names as they were. -/
structure Signature.Follows (relabeling : Relabeling) (signature other : Signature) : Prop where
  around : ∀ regions, (signature.around regions).Follows relabeling.name
    (other.around (regions.map (Region.relabel relabeling)))
  isStruct : ∀ name, (other.entry? ⟨.structs, relabeling.name name⟩).isSome =
    (signature.entry? ⟨.structs, name⟩).isSome
  isFunction : ∀ name, (other.entry? ⟨.functions, relabeling.name name⟩).isSome =
    (signature.entry? ⟨.functions, name⟩).isSome

/-! ## Declarations -/

namespace VariableDecl

variable {signature other : Signature}

theorem findings_relabel
    (injective : Function.Injective relabeling.name)
    (follows : signature.Follows relabeling other) (here : Region) (way : Address)
    (declaration : VariableDecl) :
    (declaration.relabel relabeling).findings other.entries (here.relabel relabeling)
        (way ++ relabeling.target) =
      (declaration.findings signature.entries here (way ++ relabeling.source)).map
        (Finding.relabel relabeling) := by
  have isStruct :
      (other.entries.find? (·.key = ⟨.structs, (declaration.relabel relabeling).name⟩)).isSome =
        (signature.entries.find? (·.key = ⟨.structs, declaration.name⟩)).isSome :=
    follows.isStruct declaration.name
  have isFunction :
      (other.entries.find? (·.key = ⟨.functions, (declaration.relabel relabeling).name⟩)).isSome =
        (signature.entries.find? (·.key = ⟨.functions, declaration.name⟩)).isSome :=
    follows.isFunction declaration.name
  simp only [findings, isStruct, isFunction]
  simp only [relabel, Region.mem_names_relabel injective, List.map_append,
    apply_ite (List.map (Finding.relabel relabeling)), List.map_cons, List.map_nil,
    Finding.relabel_complaint, DiagnosticKind.rename]

theorem findingsOf_relabel
    (injective : Function.Injective relabeling.name)
    (follows : signature.Follows relabeling other) (here : Region) (way : Address) (index : Nat)
    (declarations : Region) :
    findingsOf other.entries (here.relabel relabeling) (way ++ relabeling.target) index
        (declarations.relabel relabeling) =
      (findingsOf signature.entries here (way ++ relabeling.source) index declarations).map
        (Finding.relabel relabeling) := by
  induction declarations generalizing here index with
  | nil => rfl
  | cons head tail inductionHypothesis =>
      have ofHead := findings_relabel injective follows here (index :: way) head
      have ofTail := inductionHypothesis (here ++ [head]) (index + 1)
      simp only [Region.relabel_cons, Region.relabel_append, Region.relabel_nil] at ofTail ⊢
      simp only [findingsOf, List.map_append, List.cons_append] at ofHead ⊢
      rw [ofHead, ofTail]

end VariableDecl

/-! ## Statements -/

namespace Stmt

mutual

theorem declares_relabel :
    (statement : Stmt) →
      (statement.relabel relabeling).declares = statement.declares.relabel relabeling
  | .block statements _ => declaresAll_relabel statements
  | .loop _ body _ => declares_relabel body
  | .declare .. | .assign .. | .branch .. | .display .. | .append .. | .size .. | .call ..
  | .giveBack .. | .accessor .. | .stray _ | .absent => rfl

theorem declaresAll_relabel :
    (statements : List Stmt) →
      declaresAll (relabelAll relabeling statements) =
        (declaresAll statements).relabel relabeling
  | [] => rfl
  | head :: tail => by
      rw [relabelAll, declaresAll, declaresAll, declares_relabel head, declaresAll_relabel tail,
        Region.relabel_append]

end

theorem valueFindings_relabel
    {around other : Surroundings} (injective : Function.Injective relabeling.name)
    (follows : around.Follows relabeling.name other) (way : Address) (position : Position)
    (expression : Expr) {fault? : Ty → Option DiagnosticKind}
    (keeps : ∀ type, fault? (type.rename relabeling.name) = fault? type) :
    valueFindings other (way ++ relabeling.target) (relabeling.position position)
        (expression.relabel relabeling) fault? =
      (valueFindings around (way ++ relabeling.source) position expression fault?).map
        (Finding.relabel relabeling) := by
  have ofExpression := expression.findings_relabel injective follows (0 :: way)
  simp only [List.cons_append] at ofExpression
  simp only [valueFindings, List.map_append, ofExpression,
    expression.typeIn_relabel injective follows, keeps]
  cases fault? (expression.typeIn around) with
  | none => rfl
  | some kind =>
      have noNames : kind.rename relabeling.name [] = [] := by cases kind <;> rfl
      simp only [List.map_cons, List.map_nil, Finding.relabel_complaint, noNames]

mutual

theorem findings_relabel
    {signature other : Signature} (injective : Function.Injective relabeling.name)
    (follows : signature.Follows relabeling other) (here : Region) (outer : List Region)
    (way : Address) :
    (statement : Stmt) →
      (statement.relabel relabeling).findings other (here.relabel relabeling)
          (outer.map (Region.relabel relabeling)) (way ++ relabeling.target) =
        (statement.findings signature here outer (way ++ relabeling.source)).map
          (Finding.relabel relabeling)
  | .block statements _ => findingsOf_relabel injective follows here outer way 0 statements
  | .declare declared _ =>
      VariableDecl.findingsOf_relabel injective follows here way 0 declared
  | .assign target value position => by
      have around := follows.around (here :: outer)
      have ofTarget := target.findings_relabel injective around (0 :: way)
      have ofValue := value.findings_relabel injective around (1 :: way)
      simp only [List.cons_append, List.map_cons] at around ofTarget ofValue
      simp only [relabel, findings, List.map_append, ofTarget, ofValue,
        Expr.typeIn_relabel injective around, Rule.binaryOp_rename injective,
        Finding.settled_rename]
  | .branch condition thenBody elseBody position => by
      have around := follows.around ([] :: here :: outer)
      have ofCondition := valueFindings_relabel injective around way position condition
        Rule.condition?_rename
      have ofThen := findings_relabel injective follows [] (here :: outer) (1 :: way) thenBody
      have ofElse := findings_relabel injective follows [] (here :: outer) (2 :: way) elseBody
      simp only [List.cons_append, List.map_cons, Region.relabel_nil] at ofCondition ofThen ofElse
      simp only [relabel, findings, List.map_append, ofCondition, ofThen, ofElse]
  | .loop condition body position => by
      have around := follows.around (here :: outer)
      have ofCondition := valueFindings_relabel injective around way position condition
        Rule.condition?_rename
      have ofBody := findings_relabel injective follows here outer (1 :: way) body
      simp only [List.cons_append, List.map_cons] at ofCondition ofBody
      simp only [relabel, findings, List.map_append, ofCondition, ofBody]
  | .display argument position =>
      valueFindings_relabel injective (follows.around (here :: outer)) way position argument
        Rule.display?_rename
  | .append expression _ | .size expression _ | .call expression _ =>
      expression.findings_relabel injective (follows.around (here :: outer)) (0 :: way)
  | .giveBack none _ => rfl
  | .giveBack (some value) _ =>
      value.findings_relabel injective (follows.around (here :: outer)) (0 :: way)
  | .accessor .. | .stray _ | .absent => rfl

theorem findingsOf_relabel
    {signature other : Signature} (injective : Function.Injective relabeling.name)
    (follows : signature.Follows relabeling other) (here : Region) (outer : List Region)
    (way : Address) (index : Nat) :
    (statements : List Stmt) →
      findingsOf other (here.relabel relabeling) (outer.map (Region.relabel relabeling))
          (way ++ relabeling.target) index (relabelAll relabeling statements) =
        (findingsOf signature here outer (way ++ relabeling.source) index statements).map
          (Finding.relabel relabeling)
  | [] => rfl
  | head :: tail => by
      have ofHead := findings_relabel injective follows here outer (index :: way) head
      have ofTail := findingsOf_relabel injective follows (here ++ head.declares) outer way
        (index + 1) tail
      simp only [List.cons_append, Region.relabel_append] at ofHead ofTail
      simp only [relabelAll, findingsOf, List.map_append, declares_relabel, ofHead, ofTail]

end

end Stmt

end StructLang
