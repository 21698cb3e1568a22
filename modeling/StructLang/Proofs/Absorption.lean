import StructLang.Proofs.Check.Hereditary
import StructLang.Proofs.Consistency
import StructLang.Proofs.Resolution

/-!
# Unknown types are explained

The unknown type is absorbed by the rules, so that a fault is not reported again by the expressions
around it. It is never made up without a report: wherever the table has a type that is unknown or
holds the unknown type, something was reported there or below, or a name there or below means a
function that gives back a struct which nothing declares, and that was reported.

- `unknown_explained` : no type is unknown without a report.
-/

namespace StructLang

/-! ## Types without unknown parts -/

namespace Ty

mutual

/-- A type that is not unknown and holds no unknown type. -/
def Known : Ty → Prop
  | unknown => False
  | int | bool | void | generic | struct _ => True
  | list element => Known element
  | fptr parameters result => KnownAll parameters ∧ Known result

/-- Types that are not unknown and hold no unknown type. -/
def KnownAll : List Ty → Prop
  | [] => True
  | head :: tail => Known head ∧ KnownAll tail

end

theorem knownAll_iff
    {types : List Ty} : KnownAll types ↔ ∀ type ∈ types, type.Known := by
  induction types with
  | nil => simp [KnownAll]
  | cons head tail inductionHypothesis => simp [KnownAll, inductionHypothesis]

theorem hereditary_known : Hereditary Known where
  int := trivial
  bool := trivial
  void := trivial
  struct _ _ := trivial
  list _ := Iff.rfl
  fptr _ _ := and_congr_left' knownAll_iff

end Ty

theorem Expr.isExpression_kind
    {expression : Expr} (proper : expression.IsProper) : expression.kind.isExpression := by
  cases expression with
  | stray | absent => exact proper.elim
  | _ => rfl

namespace Program

variable {program : Program} {state : CheckState}

/-! ## Reports behind unknown types -/

/-- What a node says about an unknown type: something was reported at the node, or the node is a
name that means a function which gives back a struct that nothing declares, and that was reported.
-/
inductive Explains (program : Program) (state : CheckState) (node : Node) : Prop
  | diagnostic (isReported : state.diagnosticsAt node.address ≠ [])
  | lostResult {number : Nat} {regions : List Region} {called : String} {position : Position}
      {declaration : FunctionDecl} {index : Nat} {name : String}
      (sees : program.Sees number node.address regions (.name called position))
      (noVariable : Region.nearest? regions called = none)
      (isFirst : program.functionNamed? called = some (declaration, index))
      (isResult : declaration.result = .struct name)
      (isMissing : name ∉ program.structs.map (·.name))
      (isReported : ⟨.structNotDeclared, declaration.position.line, [name]⟩ ∈
        state.diagnosticsAt (functionAddress index))

theorem diagnosticsAt_ne_nil
    {address : Address} {position : Position} {verdict : Verdict} {kind : DiagnosticKind}
    {names : List String} (bears : state.Bears address position verdict)
    (isFault : verdict = .fault kind names) : state.diagnosticsAt address ≠ [] := by
  rw [bears.2, isFault]
  exact List.cons_ne_nil _ _

namespace Outcome

variable (outcome : program.Outcome state)

include outcome

theorem reported_of_misfit
    {address : Address} (misfit : program.Misfit address) : state.diagnosticsAt address ≠ [] := by
  obtain ⟨number, here, outer, target, value, position, kind, names, stands, isFault⟩ := misfit
  have isVisited := (stands.visits_operands (List.cons_ne_nil _ _)).1
  exact diagnosticsAt_ne_nil (outcome.bears_settled (allAbout_findings isVisited)) isFault

/-- The result of a function that is a struct which nothing declares was reported. -/
theorem reported_of_missing
    (written : program.Written) {declaration : FunctionDecl} {index : Nat} {name : String}
    (isThere : program.functions[index]? = some declaration)
    (isResult : declaration.result = .struct name)
    (isMissing : name ∉ program.structs.map (·.name)) :
    ⟨.structNotDeclared, declaration.position.line, [name]⟩ ∈
      state.diagnosticsAt (functionAddress index) := by
  have plain : PlainName name := by
    have writtenResult := (written.functions declaration (List.mem_of_getElem? isThere)).result
    rw [isResult] at writtenResult
    exact writtenResult
  have isReported : Finding.complaint .structNotDeclared (functionAddress index)
      declaration.position [name] ∈
        declaration.resultFindings program.entries (functionAddress index) := by
    rw [FunctionDecl.resultFindings, isResult]
    dsimp only
    rw [(find?_struct_eq_none plain).mpr isMissing]
    exact List.mem_cons_self
  have isFound : Finding.complaint .structNotDeclared (functionAddress index)
      declaration.position [name] ∈ program.findings := by
    refine List.mem_append_right _ (List.mem_append_right _ (List.mem_append_right _
      (List.mem_append_left _ (FunctionDecl.mem_checkFindingsOf.mpr ⟨_, _, isThere, ?_⟩))))
    rw [FunctionDecl.checkFindings_eq, Nat.zero_add]
    exact List.mem_append_right _ isReported
  rw [outcome.diagnosticsAt_eq]
  refine List.mem_map.mpr ⟨_, List.mem_filterMap.mpr ⟨_, List.mem_filter.mpr ⟨isFound, ?_⟩, rfl⟩,
    rfl⟩
  simp [Finding.complaint, Finding.about?]

theorem exists_node_of_sees
    {number : Nat} {address : Address} {regions : List Region} {expression : Expr}
    (sees : program.Sees number address regions expression) :
    ∃ node ∈ program.nodes, node.address = address ∧ node.kind.isExpression := by
  obtain ⟨proper, inProgram⟩ := sees.visits_subset outcome.visitsFit
  have isVisited := inProgram (List.mem_map_of_mem (Expr.mem_parts_self proper))
  obtain ⟨node, isNode, isLabel⟩ := label_of_mem_visits isVisited
  obtain ⟨isPlace, isKind, -⟩ := Node.eq_of_label isLabel
  exact ⟨node, isNode, isPlace, isKind ▸ Expr.isExpression_kind proper⟩

/-- What has a type in the table is a node. -/
theorem exists_node_of_recorded
    {address : Address} {type : Ty} (isRecorded : (address, type) ∈ state.types) :
    ∃ node ∈ program.nodes, node.address = address := by
  cases outcome.typed_of_mem_types isRecorded with
  | expression sees =>
      obtain ⟨node, isNode, isPlace, -⟩ := outcome.exists_node_of_sees sees
      exact ⟨node, isNode, isPlace⟩
  | assignment stands =>
      obtain ⟨node, isNode, isLabel⟩ :=
        label_of_mem_visits (stands.visits_operands (List.cons_ne_nil _ _)).1
      exact ⟨node, isNode, (Node.eq_of_label isLabel).1⟩

/-- Where the type of an expression may be unknown there is a node that explains it. -/
theorem explains_of_origin
    (written : program.Written) {place : Address} (origin : program.Origin place) :
    ∃ node ∈ program.nodes, node.address = place ∧ node.kind.isExpression ∧
      program.Explains state node := by
  cases origin with
  | fault sees isFault =>
      obtain ⟨node, isNode, rfl, isExpression⟩ := outcome.exists_node_of_sees sees
      obtain ⟨-, -, bears, -⟩ := outcome.seen_of_sees sees
      exact ⟨node, isNode, rfl, isExpression,
        .diagnostic (diagnosticsAt_ne_nil bears isFault)⟩
  | name sees loses =>
      obtain ⟨noVariable, declaration, index, name, isFirst, -, isResult, isMissing⟩ := loses
      obtain ⟨node, isNode, rfl, isExpression⟩ := outcome.exists_node_of_sees sees
      have isThere := (functionNamed?_eq_some isFirst).1
      exact ⟨node, isNode, rfl, isExpression, .lostResult sees noVariable isFirst isResult
        isMissing (outcome.reported_of_missing written isThere isResult isMissing)⟩

/-- A type in the table that is unknown or holds the unknown type is explained by the node that has
it or by an expression below it. -/
theorem explains_of_unknown
    (written : program.Written) {node : Node} (isNode : node ∈ program.nodes) {type : Ty}
    (isRecorded : (node.address, type) ∈ state.types) (isUnknown : ¬ type.Known) :
    ∃ below ∈ program.nodes, node.address <:+ below.address ∧
      (below = node ∨ below.kind.isExpression) ∧ program.Explains state below := by
  obtain ⟨store, -, finished⟩ := outcome.finished
  have typed := outcome.typed_of_mem_types isRecorded
  obtain ⟨-, misfit | ⟨place, isBelow, origin⟩⟩ :=
    typed.exists_origin finished written Ty.hereditary_known isUnknown
  · exact ⟨node, isNode, List.suffix_rfl, .inl rfl, .diagnostic (outcome.reported_of_misfit misfit)⟩
  · obtain ⟨below, isThere, rfl, isExpression, explains⟩ :=
      outcome.explains_of_origin written origin
    exact ⟨below, isThere, isBelow, .inr isExpression, explains⟩

end Outcome

/-- The check of a program from a source text completes. If a node of the program has a type in the
table that is unknown or holds the unknown type, the node or an expression below it explains why. So
if nothing is reported, no type in the table is unknown or holds the unknown type. -/
theorem unknown_explained
    {source : String} {program : Program} (isRead : Program.ofSource source = .ok program) :
    ∃ state, program.checked = .ok () state ∧
      (∀ node ∈ program.nodes, ∀ type, state.typeAt? node.address = some type → ¬ type.Known →
        ∃ below ∈ program.nodes, node.address <:+ below.address ∧
          (below = node ∨ below.kind.isExpression) ∧ program.Explains state below) ∧
      (state.reports = [] → ∀ pair ∈ state.types, pair.2.Known) := by
  have written := written_of_ofSource isRead
  obtain ⟨state, isChecked⟩ := checked_of_written written
  have outcome := outcome_of_checked isChecked
  refine ⟨state, isChecked, fun node isNode type isType isUnknown => ?_, ?_⟩
  · obtain ⟨before, after, isTable, -⟩ := List.lookup_eq_some_iff.mp isType
    have isRecorded : (node.address, type) ∈ state.types :=
      isTable ▸ List.mem_append_right _ List.mem_cons_self
    exact outcome.explains_of_unknown written isNode isRecorded isUnknown
  · rintro isQuiet ⟨address, type⟩ isRecorded
    obtain ⟨node, isNode, rfl⟩ := outcome.exists_node_of_recorded isRecorded
    by_contra isUnknown
    obtain ⟨below, -, -, -, explains⟩ :=
      outcome.explains_of_unknown written isNode isRecorded isUnknown
    have nothing (place : Address) : state.diagnosticsAt place = [] := by
      rw [CheckState.diagnosticsAt, isQuiet]
      rfl
    cases explains with
    | diagnostic isReported => exact isReported (nothing _)
    | lostResult _ _ _ _ _ isReported =>
        rw [nothing] at isReported
        cases isReported

/-- In the body of a function its parameters are not declared, and that explains the unknown type of
what it gives back. -/
theorem unknown_explained_givesBackParameter :
    Program.ofSource "func f(int a)int\x7breturn a;\x7dmain\x7bint b;display(f(b));\x7d" =
        .ok givesBackParameter ∧
      ∃ state, givesBackParameter.checked = .ok () state ∧
        ∃ node ∈ givesBackParameter.nodes, state.typeAt? node.address = some .unknown ∧
          ∃ below ∈ givesBackParameter.nodes, node.address <:+ below.address ∧
            (below = node ∨ below.kind.isExpression) ∧
              givesBackParameter.Explains state below := by
  obtain ⟨state, isChecked, explained, -⟩ := unknown_explained ofSource_givesBackParameter
  have isNode : (⟨[0, 0, 1, 0, 1], .nameExpr, "a", ⟨1, 25⟩⟩ : Node) ∈ givesBackParameter.nodes := by
    decide
  have isType : state.typeAt? [0, 0, 1, 0, 1] = some .unknown := by
    apply holds_of_checked isChecked
    decide +kernel
  exact ⟨ofSource_givesBackParameter, state, isChecked, _, isNode, isType,
    explained _ isNode _ isType id⟩

end Program

end StructLang
