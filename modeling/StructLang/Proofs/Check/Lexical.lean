import StructLang.Proofs.Check.Tables

/-!
# Statements and expressions of bodies

The body of a function and the main body are regions, and so are the branches of an `if`. Blocks and
loop bodies belong to the region around them. A statement or expression sees what the regions around
it declare before it. The check of a program visits all statements and expressions of its bodies.
-/

namespace StructLang

/-! ## What stands where -/

/-- The regions in which the expressions of a statement stand. The condition of an `if` belongs to
the first branch. -/
def Stmt.within (here : Region) (outer : List Region) : Stmt → List Region
  | .branch .. => [] :: here :: outer
  | _ => here :: outer

namespace Program

/-- A statement stands at an address in a body. The bodies of functions have the numbers of the
functions, and the main body comes behind them. What the innermost region declares before the
statement comes first, then what the regions around that declare before it. -/
inductive Stands (program : Program) : Nat → Address → Region → List Region → Stmt → Prop
  | function {number : Nat} {declaration : FunctionDecl}
      (isThere : program.functions[number]? = some declaration) :
      Stands program number (1 :: functionAddress number) [] [] declaration.body
  | main {declaration : MainDecl} (isThere : program.main? = some declaration) :
      Stands program program.functions.length (0 :: mainAddress) [] [] declaration.body
  | ofBlock {number index : Nat} {address : Address} {here : Region} {outer : List Region}
      {statements : List Stmt} {statement : Stmt} {position : Position}
      (stands : Stands program number address here outer (.block statements position))
      (isThere : statements[index]? = some statement) :
      Stands program number (index :: address)
        (here ++ Stmt.declaresAll (statements.take index)) outer statement
  | ofThen {number : Nat} {address : Address} {here : Region} {outer : List Region}
      {condition : Expr} {thenBody elseBody : Stmt} {position : Position}
      (stands : Stands program number address here outer
        (.branch condition thenBody elseBody position)) :
      Stands program number (1 :: address) [] (here :: outer) thenBody
  | ofElse {number : Nat} {address : Address} {here : Region} {outer : List Region}
      {condition : Expr} {thenBody elseBody : Stmt} {position : Position}
      (stands : Stands program number address here outer
        (.branch condition thenBody elseBody position)) :
      Stands program number (2 :: address) [] (here :: outer) elseBody
  | ofLoop {number : Nat} {address : Address} {here : Region} {outer : List Region}
      {condition : Expr} {body : Stmt} {position : Position}
      (stands : Stands program number address here outer (.loop condition body position)) :
      Stands program number (1 :: address) here outer body

/-- An expression stands at an address in a body and sees what some regions declare before it, the
innermost region first. -/
inductive Sees (program : Program) : Nat → Address → List Region → Expr → Prop
  | ofStmt {number : Nat} {address way : Address} {here : Region} {outer : List Region}
      {statement : Stmt} {operand : Expr}
      (stands : Stands program number address here outer statement)
      (isOperand : (way, operand) ∈ statement.operands) :
      Sees program number (way ++ address) (statement.within here outer) operand
  | ofExpr {number : Nat} {address way : Address} {regions : List Region}
      {expression operand : Expr}
      (sees : Sees program number address regions expression)
      (isOperand : (way, operand) ∈ expression.operands) :
      Sees program number (way ++ address) regions operand

/-- A statement stands at an address in the body of a function or in the main body. -/
def HasStmt (program : Program) (address : Address) (statement : Stmt) : Prop :=
  ∃ number here outer, program.Stands number address here outer statement

/-- An expression stands at an address in the body of a function or in the main body. -/
def HasExpr (program : Program) (address : Address) (expression : Expr) : Prop :=
  ∃ number regions, program.Sees number address regions expression

end Program

/-! ## All of it is visited -/

namespace Expr

variable {address way : Address} {expression operand : Expr}

theorem mem_partsOf
    (way : Address) {part : Address × Expr} {expressions : List Expr} :
    part ∈ partsOf (way ++ address) 0 expressions ↔
      ∃ operand ∈ expressions.mapIdx fun index item => (index :: way, item),
        part ∈ operand.2.parts (operand.1 ++ address) :=
  mem_reached way parts (fun _ => List.not_mem_nil) fun _ _ _ => List.mem_append

/-- A part of an expression is a part of what is right below it or the expression itself. -/
theorem mem_parts
    {part : Address × Expr} :
    part ∈ expression.parts address ↔
      (∃ operand ∈ expression.operands, part ∈ operand.2.parts (operand.1 ++ address)) ∨
        expression.IsProper ∧ part = (address, expression) := by
  cases expression with
  | group items =>
      have ofItems : part ∈ partsOf address 0 items ↔ _ := mem_partsOf []
      simp [parts, operands, IsProper, ofItems]
  | call callee arguments =>
      have ofArguments : part ∈ partsOf (1 :: address) 0 arguments ↔ _ := mem_partsOf [1]
      simp [parts, operands, IsProper, ofArguments, or_assoc]
  | stray | absent => simp [parts, operands, IsProper]
  | _ => simp [parts, operands, IsProper, or_assoc]

theorem mem_parts_self
    (proper : expression.IsProper) : (address, expression) ∈ expression.parts address :=
  mem_parts.mpr (Or.inr ⟨proper, rfl⟩)

/-- The parts of what is right below an expression are parts of it. -/
theorem parts_operand_subset
    (isOperand : (way, operand) ∈ expression.operands) :
    operand.parts (way ++ address) ⊆ expression.parts address :=
  fun _ isPart => mem_parts.mpr (Or.inl ⟨_, isOperand, isPart⟩)

end Expr

namespace Stmt

variable {statement : Stmt}

/-- A statement that holds expressions is visited, and so are they, in the same regions. -/
theorem visits_operands
    (signature : Signature) (here : Region) (outer : List Region) (address : Address)
    (hasOperand : statement.operands ≠ []) :
    ⟨signature, statement.within here outer, address, .statement statement⟩ ∈
        statement.visits signature here outer address ∧
      ∀ operand ∈ statement.operands,
        operand.2.visits signature (statement.within here outer) (operand.1 ++ address) ⊆
          statement.visits signature here outer address := by
  cases statement with
  | giveBack value? =>
      cases value? with
      | none => exact absurd rfl hasOperand
      | some value => simp [visits, operands, within]
  | block | declare | accessor | stray | absent => exact absurd rfl hasOperand
  | assign target value =>
      refine ⟨by simp [visits, within], ?_⟩
      simp only [operands, List.forall_mem_cons, List.not_mem_nil, within]
      grind [visits]
  | _ => simp [visits, operands, within]

end Stmt

/-! ## What bodies see -/

namespace Program

/-- What a program says to the body with a number. -/
def signatureFor (program : Program) (number : Nat) : Signature :=
  program.signature.losing
    (FunctionDecl.lostOf program.entries 0 (program.functions.take number))

/-- What is around the body with a number: functions are checked in a scope that stays empty. -/
def beyond (program : Program) (number : Nat) : List Region :=
  if number < program.functions.length then [[]] else []

variable {program : Program} {number : Nat} {address : Address} {here : Region}
  {outer regions : List Region} {statement : Stmt} {expression : Expr}

/-- Every statement of a body is visited, with all below it. -/
theorem Stands.visits_subset
    (stands : program.Stands number address here outer statement) :
    statement.visits (program.signatureFor number) here (outer ++ program.beyond number)
        address ⊆ program.visits := by
  induction stands with
  | @function number declaration isThere =>
      intro visit isVisit
      rw [beyond, if_pos (List.getElem?_eq_some_iff.mp isThere).1] at isVisit
      refine List.mem_append_left _ (FunctionDecl.mem_visitsOf.mpr ⟨number, _, isThere, ?_⟩)
      rw [Nat.zero_add]
      exact List.mem_append_left _ isVisit
  | @main declaration isThere =>
      rw [beyond, if_neg (Nat.lt_irrefl _), signatureFor, List.take_length, visits, mainVisits,
        isThere]
      exact List.subset_append_right _ _
  | @ofBlock number index address here outer statements statement position _ isThere
      inductionHypothesis =>
      intro visit isVisit
      refine inductionHypothesis (List.mem_append_left _
        (Stmt.mem_visitsOf.mpr ⟨index, statement, isThere, ?_⟩))
      rwa [Nat.zero_add]
  | ofThen _ inductionHypothesis | ofElse _ inductionHypothesis
  | ofLoop _ inductionHypothesis =>
      refine List.Subset.trans ?_ inductionHypothesis
      simp only [Stmt.visits, List.cons_append]
      grind

theorem within_append
    (here : Region) (outer others : List Region) (statement : Stmt) :
    statement.within here (outer ++ others) = statement.within here outer ++ others := by
  cases statement <;> rfl

/-- A statement that holds expressions is visited, and so are they, in the same regions. -/
theorem Stands.visits_operands
    (stands : program.Stands number address here outer statement)
    (hasOperand : statement.operands ≠ []) :
    ⟨program.signatureFor number, statement.within here outer ++ program.beyond number, address,
        .statement statement⟩ ∈ program.visits ∧
      ∀ operand ∈ statement.operands,
        operand.2.visits (program.signatureFor number)
            (statement.within here outer ++ program.beyond number) (operand.1 ++ address) ⊆
          program.visits := by
  have inStatement := Stmt.visits_operands (program.signatureFor number) here
    (outer ++ program.beyond number) address hasOperand
  rw [within_append] at inStatement
  exact ⟨stands.visits_subset inStatement.1,
    fun operand isOperand =>
      List.Subset.trans (inStatement.2 operand isOperand) stands.visits_subset⟩

/-- Every expression of a body is visited, with all below it. -/
theorem Sees.visits_subset
    (allFit : Visit.AllFit program.visits)
    (sees : program.Sees number address regions expression) :
    expression.IsProper ∧
      expression.visits (program.signatureFor number) (regions ++ program.beyond number)
        address ⊆ program.visits := by
  induction sees with
  | @ofStmt address way here outer statement operand stands isOperand =>
      obtain ⟨isVisited, inProgram⟩ := stands.visits_operands (List.ne_nil_of_mem isOperand)
      have fits : ∀ operand ∈ statement.operands, operand.2.IsProper := allFit _ isVisited
      exact ⟨fits _ isOperand, inProgram _ isOperand⟩
  | @ofExpr address way regions expression operand _ isOperand inductionHypothesis =>
      obtain ⟨proper, inProgram⟩ := inductionHypothesis
      have isVisited := inProgram (List.mem_map_of_mem (Expr.mem_parts_self proper))
      have fits : expression.Fits ((program.signatureFor number).around
          (regions ++ program.beyond number)) := allFit _ isVisited
      exact ⟨fits.operands _ isOperand,
        List.Subset.trans (List.map_subset _ (Expr.parts_operand_subset isOperand)) inProgram⟩

end Program

end StructLang
