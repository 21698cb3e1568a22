import StructLang.Proofs.Check.Places
import StructLang.Proofs.Messages

/-!
# What bodies complain about

Each rule complains of a few things only. So it is known what a body can complain about; names of
structs and functions are none of it.
-/

namespace StructLang

/-- A verdict complains of certain things only, and has the names that its message needs. -/
def Verdict.FaultsIn (kinds : List DiagnosticKind) : Verdict → Prop
  | .type _ => True
  | .fault kind names => kind ∈ kinds ∧ kind.nameCount ≤ names.length

/-- What can be wrong with an expression. -/
def Expr.faults : List DiagnosticKind :=
  [.variableNotDeclared, .structNotDeclared, .structMemberNotFound, .unsupportedOperand,
    .indexNotInt, .indexOnNonList, .memberOnNonStruct, .sizeOfNonList, .appendToNonList,
    .elementMismatch, .callOnNonFunction, .argumentMismatch]

/-! ## Rules -/

namespace Rule

theorem faultsIn_binaryOp
    (operator : BinaryOp) (left right : Ty) :
    (binaryOp operator left right).FaultsIn Expr.faults := by
  rw [binaryOp]
  split
  · trivial
  · cases binaryType? operator left right with
    | some found => trivial
    | none => simp [Verdict.ofOption, Verdict.FaultsIn, Expr.faults]

theorem faultsIn_binary?
    (operator : Operator) (left right : Ty) :
    ((binary? operator left right).getD (.type .unknown)).FaultsIn Expr.faults := by
  cases operator with
  | binary plain => exact faultsIn_binaryOp plain left right
  | unary | absent =>
      simp only [binary?]
      split <;> trivial

theorem faultsIn_unary?
    (operator : Operator) (operand : Ty) :
    ((unary? operator operand).getD (.type .unknown)).FaultsIn Expr.faults := by
  simp only [unary?]
  split
  · trivial
  · split <;> simp [Verdict.FaultsIn, Expr.faults]

theorem faultsIn_index
    (list place : Ty) : (index list place).FaultsIn Expr.faults := by
  simp only [index]
  split
  · trivial
  · split
    · simp [Verdict.FaultsIn, Expr.faults]
    · split <;> simp [Verdict.FaultsIn, Expr.faults]

theorem faultsIn_size
    (list : Ty) : (size list).FaultsIn Expr.faults := by
  cases list <;> simp [size, Verdict.FaultsIn, Expr.faults]

theorem faultsIn_append
    (list element : Ty) : (append list element).FaultsIn Expr.faults := by
  simp only [append]
  split
  · split
    · trivial
    · split <;> simp [Verdict.FaultsIn, Expr.faults]
  · trivial
  · simp [Verdict.FaultsIn, Expr.faults]

theorem faultsIn_call
    (callee : Ty) (arguments : List Ty) : (call callee arguments).FaultsIn Expr.faults := by
  simp only [call]
  split
  · trivial
  · split <;> simp [Verdict.FaultsIn, Expr.faults]
  · simp [Verdict.FaultsIn, Expr.faults]

end Rule

namespace Signature

theorem faultsIn_name
    (signature : Signature) (regions : List Region) (called : String) :
    (signature.name regions called).FaultsIn Expr.faults := by
  simp only [name]
  split
  · trivial
  · split <;> simp [Verdict.FaultsIn, Expr.faults]

theorem faultsIn_member
    (signature : Signature) (owner : Ty) (called : String) :
    (signature.member owner called).FaultsIn Expr.faults := by
  simp only [member]
  split
  · trivial
  · split
    · split <;> simp [Verdict.FaultsIn, Expr.faults]
    · simp [Verdict.FaultsIn, Expr.faults]
  · simp [Verdict.FaultsIn, Expr.faults]

theorem faultsIn_verdict
    (signature : Signature) (regions : List Region) (expression : Expr) :
    (expression.verdict (signature.around regions)).FaultsIn Expr.faults := by
  cases expression with
  | name called => exact signature.faultsIn_name regions called
  | binary left operator right => exact Rule.faultsIn_binary? operator _ _
  | unary operator operand => exact Rule.faultsIn_unary? operator _
  | index list place => exact Rule.faultsIn_index _ _
  | member owner called => exact signature.faultsIn_member _ called
  | size list => exact Rule.faultsIn_size _
  | append list element => exact Rule.faultsIn_append _ _
  | call callee arguments => exact Rule.faultsIn_call _ _
  | integer | boolean | group | stray | absent => trivial

end Signature

/-! ## Findings -/

namespace Finding

/-- If a finding is a complaint then about certain things only, with the names that its message
needs. -/
def ComplainsIn (kinds : List DiagnosticKind) : Finding → Prop
  | reported report =>
      report.diagnostic.kind ∈ kinds ∧
        report.diagnostic.kind.nameCount ≤ report.diagnostic.names.length
  | _ => True

theorem DeclaresAt.complainsIn
    {kinds : List DiagnosticKind} {isAt : Address → Prop} {finding : Finding}
    (declares : finding.DeclaresAt kinds isAt)
    (needOne : ∀ kind ∈ kinds, kind.nameCount ≤ 1) : finding.ComplainsIn kinds := by
  cases finding with
  | reported report =>
      obtain ⟨isKind, hasName, -⟩ := declares
      exact ⟨isKind, hasName ▸ needOne _ isKind⟩
  | _ => trivial

theorem complainsIn_settled
    {kinds : List DiagnosticKind} {address : Address} {position : Position} {verdict : Verdict}
    (faultsIn : verdict.FaultsIn kinds) :
    ∀ finding ∈ settled address position verdict, finding.ComplainsIn kinds := by
  cases verdict with
  | type found => simp [settled, ComplainsIn]
  | fault kind names =>
      have isKind : kind ∈ kinds ∧ kind.nameCount ≤ names.length := faultsIn
      simpa [settled, complaint, ComplainsIn] using isKind

theorem ComplainsIn.mono
    {kinds kindsToo : List DiagnosticKind} {finding : Finding}
    (complains : finding.ComplainsIn kinds) (subset : kinds ⊆ kindsToo) :
    finding.ComplainsIn kindsToo := by
  cases finding with
  | reported report => exact ⟨subset complains.1, complains.2⟩
  | _ => trivial

end Finding

/-- What can be wrong with a statement itself. -/
def Stmt.ownFaults : List DiagnosticKind :=
  Expr.faults ++ [.conditionNotBool, .unsupportedDisplay]

/-- What bodies complain about. -/
def Stmt.faults : List DiagnosticKind :=
  Expr.faults ++ [.conditionNotBool, .unsupportedDisplay, .variableStructConflict,
    .variableFunctionConflict, .duplicateVariable]

theorem Finding.ComplainsIn.ofExpr
    {finding : Finding} (complains : finding.ComplainsIn Expr.faults) :
    finding.ComplainsIn Stmt.faults :=
  complains.mono (List.subset_append_left _ _)

theorem Stmt.complainsIn_ownFindings
    {around : Surroundings} {address : Address} (statement : Stmt) :
    ∀ finding ∈ statement.ownFindings around address, finding.ComplainsIn ownFaults := by
  cases statement with
  | assign target value position =>
      exact fun finding member => (Finding.complainsIn_settled
        (Rule.faultsIn_binaryOp _ _ _) finding member).mono (List.subset_append_left _ _)
  | branch condition | loop condition =>
      simp only [ownFindings]
      split
      case h_1 kind isFault =>
        have isKind : kind = .conditionNotBool := by
          revert isFault
          cases condition.typeIn _ <;> simp [Rule.condition?, eq_comm]
        simp [isKind, Finding.complaint, Finding.ComplainsIn, ownFaults]
      case h_2 => exact List.forall_mem_nil _
  | display argument =>
      simp only [ownFindings]
      split
      case h_1 kind isFault =>
        have isKind : kind = .unsupportedDisplay := by
          revert isFault
          cases argument.typeIn _ <;> simp [Rule.display?, eq_comm]
        simp [isKind, Finding.complaint, Finding.ComplainsIn, ownFaults]
      case h_2 => exact List.forall_mem_nil _
  | _ => exact List.forall_mem_nil _

theorem Visit.complainsIn_findings
    (visit : Visit) : ∀ finding ∈ visit.findings, finding.ComplainsIn Stmt.faults := by
  obtain ⟨signature, regions, address, subject⟩ := visit
  cases subject with
  | expression expression =>
      exact fun finding member => (Finding.complainsIn_settled
        (signature.faultsIn_verdict regions expression) finding member).ofExpr
  | statement statement =>
      exact fun finding member =>
        (statement.complainsIn_ownFindings finding member).mono (by decide)
  | declaration declaration =>
      intro finding isFound
      obtain ⟨kind, isKind, rfl⟩ := VariableDecl.exists_of_mem_findings isFound
      have areFaults : VariableDecl.faults ⊆ Stmt.faults := by decide
      have needOne : ∀ kind ∈ VariableDecl.faults, kind.nameCount ≤ 1 := by decide
      exact ⟨areFaults isKind, needOne kind isKind⟩

/-- What can be wrong with the name of a variable is found in visits of declarations only. -/
theorem Visit.exists_declaration_of_fault
    {visit : Visit} {report : Report} (isFound : .reported report ∈ visit.findings)
    (isFault : report.diagnostic.kind ∈ VariableDecl.faults) :
    ∃ declaration, visit.subject = .declaration declaration := by
  obtain ⟨signature, regions, address, subject⟩ := visit
  have elsewhere (kinds : List DiagnosticKind) (complains :
      (Finding.reported report).ComplainsIn kinds)
      (disjoint : ∀ kind ∈ VariableDecl.faults, kind ∉ kinds) : False :=
    disjoint _ isFault complains.1
  cases subject with
  | expression expression =>
      exact (elsewhere _ (Finding.complainsIn_settled
        (signature.faultsIn_verdict regions expression) _ isFound) (by decide)).elim
  | statement statement =>
      exact (elsewhere _ (statement.complainsIn_ownFindings _ isFound) (by decide)).elim
  | declaration declaration => exact ⟨declaration, rfl⟩

end StructLang
