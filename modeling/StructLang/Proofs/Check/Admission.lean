import StructLang.Proofs.Check.Typings

/-!
# Bodies without complaints

Nothing is complained about at a statement exactly if what it declares may be declared there, the
regions of its branches are clear, and its expressions have the types that it asks for. So nothing
is complained about at the bodies of a program exactly if they are as in a well-formed program.
-/

namespace StructLang

open Finding

mutual

theorem Stmt.Written.declares :
    (statement : Stmt) → statement.Written →
      ∀ declaration ∈ statement.declares, declaration.Written
  | .block statements _, written => writtenDeclaresAll statements written
  | .declare _ _, written => written
  | .loop _ body _, written => Stmt.Written.declares body written.2
  | .assign .., _ | .branch .., _ | .display .., _ | .append .., _ | .size .., _ | .call .., _
  | .giveBack .., _ | .accessor .., _ | .stray _, _ | .absent, _ => List.forall_mem_nil _

theorem writtenDeclaresAll :
    (statements : List Stmt) → Stmt.WrittenAll statements →
      ∀ declaration ∈ Stmt.declaresAll statements, declaration.Written
  | [], _ => List.forall_mem_nil _
  | head :: tail, written =>
      List.forall_mem_append.mpr
        ⟨Stmt.Written.declares head written.1, writtenDeclaresAll tail written.2⟩

end

namespace Rule

theorem condition?_eq_none
    {type : Ty} (known : type.isUnknown = false) : condition? type = none ↔ type = .bool := by
  cases type with
  | unknown => cases known
  | _ => simp [condition?]

theorem display?_eq_none
    {type : Ty} (known : type.isUnknown = false) :
    display? type = none ↔ type ∈ [.int, .bool] := by
  cases type with
  | unknown => cases known
  | _ => simp [display?]

end Rule

namespace Program

variable {program : Program} {here : Region} {outer regions : List Region} {number : Nat}

/-- Nothing is to be complained about at a statement inside nested regions. -/
structure Admits (program : Program) (here : Region) (outer : List Region) (statement : Stmt) :
    Prop where
  joins : program.Joins here statement.declares
  branches : ∀ region ∈ statement.branches, program.ClearRegion region
  typed : statement.Typed program here outer

/-- Nothing is to be complained about at several statements inside nested regions. -/
structure AdmitsAll (program : Program) (here : Region) (outer : List Region)
    (statements : List Stmt) : Prop where
  joins : program.Joins here (Stmt.declaresAll statements)
  branches : ∀ region ∈ Stmt.branchesOf statements, program.ClearRegion region
  typed : Stmt.TypedAll program here outer statements

theorem admits_iff_typed
    {statement : Stmt} (noDeclaration : statement.declares = [])
    (noBranch : statement.branches = []) :
    program.Admits here outer statement ↔ statement.Typed program here outer := by
  constructor
  · exact Admits.typed
  · intro typed
    refine ⟨?_, ?_, typed⟩
    · rw [noDeclaration]
      exact joins_nil
    · rw [noBranch]
      exact List.forall_mem_nil _

theorem admits_block
    {statements : List Stmt} {position : Position} :
    program.Admits here outer (.block statements position) ↔
      program.AdmitsAll here outer statements := by
  constructor
  · rintro ⟨joins, branches, typed⟩
    exact ⟨joins, branches, typed⟩
  · rintro ⟨joins, branches, typed⟩
    exact ⟨joins, branches, typed⟩

theorem admits_branch
    {condition : Expr} {thenBody elseBody : Stmt} {position : Position} :
    program.Admits here outer (.branch condition thenBody elseBody position) ↔
      program.HasType ([] :: here :: outer) condition .bool ∧
        program.Admits [] (here :: outer) thenBody ∧
          program.Admits [] (here :: outer) elseBody := by
  constructor
  · rintro ⟨-, branches, ofCondition, typedThen, typedElse⟩
    rw [Stmt.branches, List.forall_mem_append, List.forall_mem_cons, List.forall_mem_cons]
      at branches
    exact ⟨ofCondition, ⟨joins_nil_left.mpr branches.1.1, branches.1.2, typedThen⟩,
      ⟨joins_nil_left.mpr branches.2.1, branches.2.2, typedElse⟩⟩
  · rintro ⟨ofCondition, admitsThen, admitsElse⟩
    refine ⟨joins_nil, ?_, ofCondition, admitsThen.typed, admitsElse.typed⟩
    rw [Stmt.branches, List.forall_mem_append, List.forall_mem_cons, List.forall_mem_cons]
    exact ⟨⟨joins_nil_left.mp admitsThen.joins, admitsThen.branches⟩,
      joins_nil_left.mp admitsElse.joins, admitsElse.branches⟩

theorem admits_loop
    {condition : Expr} {body : Stmt} {position : Position} :
    program.Admits here outer (.loop condition body position) ↔
      program.HasType (here :: outer) condition .bool ∧ program.Admits here outer body := by
  constructor
  · rintro ⟨joins, branches, ofCondition, typed⟩
    exact ⟨ofCondition, joins, branches, typed⟩
  · rintro ⟨ofCondition, joins, branches, typed⟩
    exact ⟨joins, branches, ofCondition, typed⟩

theorem admitsAll_cons
    {head : Stmt} {tail : List Stmt} :
    program.AdmitsAll here outer (head :: tail) ↔
      program.Admits here outer head ∧ program.AdmitsAll (here ++ head.declares) outer tail := by
  constructor
  · rintro ⟨joins, branches, typedHead, typedTail⟩
    rw [Stmt.declaresAll, joins_append] at joins
    rw [Stmt.branchesOf, List.forall_mem_append] at branches
    exact ⟨⟨joins.1, branches.1, typedHead⟩, ⟨joins.2, branches.2, typedTail⟩⟩
  · rintro ⟨admitsHead, admitsTail⟩
    refine ⟨?_, ?_, admitsHead.typed, admitsTail.typed⟩
    · rw [Stmt.declaresAll, joins_append]
      exact ⟨admitsHead.joins, admitsTail.joins⟩
    · rw [Stmt.branchesOf, List.forall_mem_append]
      exact ⟨admitsHead.branches, admitsTail.branches⟩

section Statements

variable (names : program.NamesApart) (written : program.Written)

include names written

theorem quiet_expression
    {address : Address} {expression : Expr} (allWritten : Region.AllWritten regions)
    (isWritten : expression.Written) :
    Quiet (expression.findings (program.surroundings number regions) address) ↔
      ∃ type, program.HasType regions expression type := by
  constructor
  · intro isQuiet
    exact ⟨_, hasType_of_quiet names written allWritten isWritten isQuiet⟩
  · rintro ⟨type, hasType⟩
    exact (hasType.clean names written allWritten number address isWritten).quiet

theorem quiet_valueFindings
    {address : Address} {position : Position} {expression : Expr}
    {fault? : Ty → Option DiagnosticKind} (allWritten : Region.AllWritten regions)
    (isWritten : expression.Written) :
    Quiet (Stmt.valueFindings (program.surroundings number regions) address position expression
        fault?) ↔
      ∃ type, program.HasType regions expression type ∧ fault? type = none := by
  constructor
  · intro isQuiet
    obtain ⟨valueQuiet, faultQuiet⟩ := quiet_append.mp isQuiet
    refine ⟨_, hasType_of_quiet names written allWritten isWritten valueQuiet, ?_⟩
    cases isFault : fault? (expression.typeIn (program.surroundings number regions)) with
    | none => rfl
    | some kind =>
        rw [isFault] at faultQuiet
        cases faultQuiet
  · rintro ⟨type, hasType, noFault⟩
    have clean := hasType.clean names written allWritten number (0 :: address) isWritten
    refine quiet_append.mpr ⟨clean.quiet, ?_⟩
    rw [clean.typeIn, noFault]
    rfl

theorem quiet_condition
    {address : Address} {position : Position} {condition : Expr}
    (allWritten : Region.AllWritten regions) (isWritten : condition.Written) :
    Quiet (Stmt.valueFindings (program.surroundings number regions) address position condition
        Rule.condition?) ↔
      program.HasType regions condition .bool := by
  rw [quiet_valueFindings names written allWritten isWritten]
  constructor
  · rintro ⟨type, hasType, noFault⟩
    obtain rfl := (Rule.condition?_eq_none (hasType.written written allWritten).isUnknown).mp
      noFault
    exact hasType
  · intro hasType
    exact ⟨.bool, hasType, rfl⟩

theorem quiet_display
    {address : Address} {position : Position} {argument : Expr}
    (allWritten : Region.AllWritten regions) (isWritten : argument.Written) :
    Quiet (Stmt.valueFindings (program.surroundings number regions) address position argument
        Rule.display?) ↔
      ∃ type ∈ [Ty.int, .bool], program.HasType regions argument type := by
  rw [quiet_valueFindings names written allWritten isWritten]
  constructor
  · rintro ⟨type, hasType, noFault⟩
    have known := (hasType.written written allWritten).isUnknown
    exact ⟨type, (Rule.display?_eq_none known).mp noFault, hasType⟩
  · rintro ⟨type, isShown, hasType⟩
    have known := (hasType.written written allWritten).isUnknown
    exact ⟨type, hasType, (Rule.display?_eq_none known).mpr isShown⟩

theorem quiet_assign
    {address : Address} {position : Position} {target value : Expr}
    (allWritten : Region.AllWritten regions) (targetWritten : target.Written)
    (valueWritten : value.Written) :
    Quiet (target.findings (program.surroundings number regions) (0 :: address) ++
        (value.findings (program.surroundings number regions) (1 :: address) ++
          settled address position
            (Rule.binaryOp .assign (target.typeIn (program.surroundings number regions))
              (value.typeIn (program.surroundings number regions))))) ↔
      ∃ type, program.HasType regions target type ∧ program.HasType regions value type := by
  rw [quiet_append, quiet_append, quiet_settled]
  constructor
  · rintro ⟨targetQuiet, valueQuiet, isRule⟩
    have ofTarget := hasType_of_quiet names written allWritten targetWritten targetQuiet
    have ofValue := hasType_of_quiet names written allWritten valueWritten valueQuiet
    rw [Rule.binaryOp_eq_type (ofTarget.written written allWritten).isUnknown
      (ofValue.written written allWritten).isUnknown] at isRule
    rcases isRule with ⟨isOperator, -⟩ | ⟨isOperator, -⟩ | ⟨isOperator, -⟩ | ⟨isOperator, -⟩ |
      ⟨-, same, -⟩
    · simp at isOperator
    · simp at isOperator
    · cases isOperator
    · simp at isOperator
    · exact ⟨_, ofTarget, same ▸ ofValue⟩
  · rintro ⟨type, ofTarget, ofValue⟩
    have known := (ofTarget.written written allWritten).isUnknown
    have cleanTarget := ofTarget.clean names written allWritten number (0 :: address) targetWritten
    have cleanValue := ofValue.clean names written allWritten number (1 :: address) valueWritten
    refine ⟨cleanTarget.quiet, cleanValue.quiet, ?_⟩
    have isRule : Rule.binaryOp .assign type type = .type type :=
      (Rule.binaryOp_eq_type known known).mpr (.inr (.inr (.inr (.inr ⟨rfl, rfl, rfl⟩))))
    rw [cleanTarget.typeIn, cleanValue.typeIn, isRule]
    rfl

-- The second theorem of the pair uses the assumptions only through the first one.
set_option linter.unusedSectionVars false in
mutual

/-- Nothing is complained about at a statement exactly if it is admitted. -/
theorem quiet_statement
    {here : Region} {outer : List Region} (address : Address)
    (allWritten : Region.AllWritten (here :: outer)) :
    (statement : Stmt) → statement.Written →
      (Quiet (statement.findings program.signature here (outer ++ program.beyond number)
          address) ↔
        program.Admits here outer statement)
  | .block statements _, isWritten => by
      rw [admits_block]
      exact quiet_statements address 0 allWritten statements isWritten
  | .declare declared _, _ => by
      have isQuiet : Quiet (VariableDecl.findingsOf program.entries here address 0 declared) ↔
          program.Joins here declared := VariableDecl.quiet_findingsOf names
      constructor
      · intro quiet
        exact ⟨isQuiet.mp quiet, List.forall_mem_nil _, trivial⟩
      · intro admits
        exact isQuiet.mpr admits.joins
  | .assign target value position, isWritten => by
      rw [admits_iff_typed rfl rfl]
      exact quiet_assign names written allWritten isWritten.1 isWritten.2
  | .branch condition thenBody elseBody position, ⟨conditionWritten, thenWritten, elseOk⟩ => by
      have allWrittenInside : Region.AllWritten ([] :: here :: outer) :=
        .cons (List.forall_mem_nil _) allWritten
      have ofElse :
          Quiet (elseBody.findings program.signature [] (here :: outer ++ program.beyond number)
            (2 :: address)) ↔ program.Admits [] (here :: outer) elseBody := by
        rcases elseOk with rfl | elseWritten
        · exact iff_of_true quiet_nil ⟨joins_nil, List.forall_mem_nil _, trivial⟩
        · exact quiet_statement _ allWrittenInside elseBody elseWritten
      rw [admits_branch, Stmt.findings, quiet_append, quiet_append]
      exact and_congr (quiet_condition names written allWrittenInside conditionWritten)
        (and_congr (quiet_statement _ allWrittenInside thenBody thenWritten) ofElse)
  | .loop condition body position, ⟨conditionWritten, bodyWritten⟩ => by
      rw [admits_loop, Stmt.findings, quiet_append]
      exact and_congr (quiet_condition names written allWritten conditionWritten)
        (quiet_statement _ allWritten body bodyWritten)
  | .display argument position, isWritten => by
      rw [admits_iff_typed rfl rfl]
      exact quiet_display names written allWritten isWritten
  | .append expression _, isWritten | .size expression _, isWritten | .call expression _, isWritten
  | .giveBack (some expression) _, isWritten => by
      rw [admits_iff_typed rfl rfl]
      exact quiet_expression names written allWritten isWritten
  | .giveBack none _, _ => by
      rw [admits_iff_typed rfl rfl]
      exact iff_of_true quiet_nil trivial
  | .accessor .., isWritten | .stray _, isWritten | .absent, isWritten => isWritten.elim

theorem quiet_statements
    {here : Region} {outer : List Region} (address : Address) (index : Nat)
    (allWritten : Region.AllWritten (here :: outer)) :
    (statements : List Stmt) → Stmt.WrittenAll statements →
      (Quiet (Stmt.findingsOf program.signature here (outer ++ program.beyond number) address index
          statements) ↔
        program.AdmitsAll here outer statements)
  | [], _ => iff_of_true quiet_nil ⟨joins_nil, List.forall_mem_nil _, trivial⟩
  | head :: tail, isWritten => by
      have writtenHere : ∀ declaration ∈ here ++ head.declares, declaration.Written :=
        List.forall_mem_append.mpr
          ⟨allWritten here List.mem_cons_self, Stmt.Written.declares head isWritten.1⟩
      have allWrittenNext : Region.AllWritten ((here ++ head.declares) :: outer) :=
        .cons writtenHere fun region isOuter => allWritten region (.tail _ isOuter)
      rw [Stmt.findingsOf, quiet_append, quiet_statement _ allWritten head isWritten.1,
        quiet_statements _ _ allWrittenNext tail isWritten.2]
      exact admitsAll_cons.symm

end

end Statements

end Program

/-! ## Functions and the main body -/

section Bodies

variable {program : Program} (names : program.NamesApart)

include names

theorem FunctionDecl.quiet_resultFindings
    {address : Address} {declaration : FunctionDecl} :
    Quiet (declaration.resultFindings program.entries address) ↔
      ∀ name, declaration.result = .struct name → name ∈ program.structs.map (·.name) := by
  rw [resultFindings]
  cases declaration.result with
  | struct name =>
      dsimp only
      rw [quiet_ite, ← Option.not_isSome, Bool.not_eq_true', Bool.not_eq_false,
        names.distinct.isSome_struct]
      simp
  | _ => simp

variable (written : program.Written)

include written

theorem FunctionDecl.quiet_checkFindings
    {address : Address} {declaration : FunctionDecl} (isThere : declaration ∈ program.functions) :
    Quiet (declaration.checkFindings program.signature address) ↔
      program.WellFormedFunction declaration := by
  have isWritten := written.functions declaration isThere
  have isBeyond : program.beyond 0 = [[]] := if_pos (List.length_pos_of_mem isThere)
  have ofBody :
      Quiet (declaration.body.findings program.signature [] ([] ++ program.beyond 0)
          (1 :: address)) ↔
        program.Admits [] [] declaration.body :=
    Program.quiet_statement names written _ (.cons (List.forall_mem_nil _) (List.forall_mem_nil _))
      declaration.body isWritten.body
  have ofParameters :
      Quiet (VariableDecl.findingsOf program.signature.entries declaration.body.declares
          (0 :: address) 0 declaration.parameters) ↔
        program.Joins declaration.body.declares declaration.parameters :=
    VariableDecl.quiet_findingsOf names
  have ofResult :
      Quiet (declaration.resultFindings program.signature.entries address) ↔
        ∀ name, declaration.result = .struct name → name ∈ program.structs.map (·.name) :=
    quiet_resultFindings names
  rw [isBeyond, List.nil_append] at ofBody
  rw [checkFindings, quiet_append, quiet_append, ofBody, ofParameters, ofResult]
  constructor
  · rintro ⟨admits, joins, isDeclared⟩
    refine ⟨List.forall_mem_cons.mpr ⟨?_, admits.branches⟩, isDeclared, admits.typed⟩
    exact Program.clearRegion_append.mpr ⟨admits.joins.clear, joins⟩
  · intro wellFormed
    obtain ⟨ofScope, ofBranches⟩ := List.forall_mem_cons.mp wellFormed.regions
    obtain ⟨clear, joins⟩ := Program.clearRegion_append.mp ofScope
    exact ⟨⟨Program.joins_nil_left.mpr clear, ofBranches, wellFormed.typed⟩, joins,
      wellFormed.result⟩

theorem FunctionDecl.quiet_checkFindingsOf
    {index : Nat} {functions : List FunctionDecl} (areThere : functions ⊆ program.functions) :
    Quiet (checkFindingsOf program.signature index functions) ↔
      ∀ declaration ∈ functions, program.WellFormedFunction declaration := by
  induction functions generalizing index with
  | nil => exact iff_of_true quiet_nil (List.forall_mem_nil _)
  | cons head tail inductionHypothesis =>
      obtain ⟨isThere, areThereToo⟩ := List.cons_subset.mp areThere
      rw [checkFindingsOf, quiet_append, List.forall_mem_cons,
        quiet_checkFindings names written isThere]
      refine and_congr_right fun wellFormed => ?_
      -- A function that is well-formed does not lose its result.
      have noLoss : head.lost program.signature.entries (Program.functionAddress index) = [] :=
        names.distinct.lost_eq_nil wellFormed.result
      rw [noLoss]
      exact inductionHypothesis areThereToo

theorem MainDecl.quiet_checkFindings
    {declaration : MainDecl} (isMain : program.main? = some declaration) :
    Quiet (declaration.checkFindings program.signature) ↔ program.WellFormedMain declaration := by
  obtain ⟨main, isMainToo, isWritten⟩ := written.main
  obtain rfl := Option.some.inj (isMain.symm.trans isMainToo)
  have isBeyond : program.beyond program.functions.length = [] := if_neg (Nat.lt_irrefl _)
  have ofBody :
      Quiet (declaration.body.findings program.signature []
          ([] ++ program.beyond program.functions.length) (0 :: Program.mainAddress)) ↔
        program.Admits [] [] declaration.body :=
    Program.quiet_statement names written _ (.cons (List.forall_mem_nil _) (List.forall_mem_nil _))
      declaration.body isWritten
  rw [isBeyond, List.nil_append] at ofBody
  rw [checkFindings, ofBody]
  constructor
  · intro admits
    refine ⟨List.forall_mem_cons.mpr ⟨?_, admits.branches⟩, admits.typed⟩
    exact Program.joins_nil_left.mp admits.joins
  · intro wellFormed
    obtain ⟨clear, ofBranches⟩ := List.forall_mem_cons.mp wellFormed.regions
    exact ⟨Program.joins_nil_left.mpr clear, ofBranches, wellFormed.typed⟩

theorem Program.NamesApart.quiet_bodyFindings :
    Quiet program.bodyFindings ↔
      (∀ declaration ∈ program.functions, program.WellFormedFunction declaration) ∧
        ∀ declaration, program.main? = some declaration → program.WellFormedMain declaration := by
  rw [bodyFindings, quiet_append,
    FunctionDecl.quiet_checkFindingsOf names written (List.Subset.refl _)]
  refine and_congr_right fun areWellFormed => ?_
  have noLoss : FunctionDecl.lostOf program.entries 0 program.functions = [] :=
    names.distinct.lostOf_eq_nil fun declaration isThere =>
      (areWellFormed declaration isThere).result
  obtain ⟨main, isMain, -⟩ := written.main
  rw [mainSignature, noLoss, isMain]
  constructor
  · intro isQuiet declaration isMainToo
    obtain rfl := Option.some.inj isMainToo
    exact (MainDecl.quiet_checkFindings names written isMain).mp isQuiet
  · intro wellFormed
    exact (MainDecl.quiet_checkFindings names written isMain).mpr (wellFormed main rfl)

end Bodies

namespace Program

variable {program : Program}

/-- Nothing is complained about in a program, as it is written, exactly if it is well-formed. -/
theorem quiet_findings_iff
    (written : program.Written) : Quiet program.findings ↔ program.WellFormed := by
  rw [findings, quiet_append, quiet_append, quiet_append, quiet_declareFindings]
  constructor
  · rintro ⟨names, ofMembers, ofCycles, ofBodies⟩
    obtain ⟨ofFunctions, ofMain⟩ := (names.quiet_bodyFindings written).mp ofBodies
    exact ⟨names, names.quiet_memberFindings.mp ofMembers, names.quiet_cycleFindings.mp ofCycles,
      ofFunctions, ofMain⟩
  · intro wellFormed
    have names := wellFormed.names
    exact ⟨names, names.quiet_memberFindings.mpr wellFormed.structs,
      names.quiet_cycleFindings.mpr wellFormed.finite,
      (names.quiet_bodyFindings written).mpr ⟨wellFormed.functions, wellFormed.main⟩⟩

theorem Outcome.reports_eq_nil_iff
    {state : CheckState} (outcome : program.Outcome state) :
    state.reports = [] ↔ Quiet program.findings := by
  rw [Quiet, ← outcome.reports_eq, List.reverse_eq_nil_iff]

end Program

end StructLang
