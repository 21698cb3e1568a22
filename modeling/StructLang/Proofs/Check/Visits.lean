import StructLang.Proofs.Check.Signatures

/-!
# What the check of a statement finds

A statement stands in nested regions. The innermost one grows by what the statement declares, so
later statements see it; what a branch declares is seen in that branch only. The check visits the
nodes of a statement one after the other, and finds something at each of them.
-/

namespace StructLang

/-! ## One owner after the other -/

section Owners

variable {alpha beta : Type} {part : beta} {index : Nat} {owners : List alpha}

/-- What comes from several owners, numbered from an index on, comes from one of them, in the state
that those before it leave. -/
theorem mem_threaded
    {sigma : Type} (partsOf : sigma → Nat → List alpha → List beta)
    (parts : sigma → Nat → alpha → List beta) (next : sigma → Nat → alpha → sigma)
    (after : sigma → Nat → List alpha → sigma)
    (ofNone : ∀ state index, part ∉ partsOf state index [])
    (ofMore : ∀ state index head tail, part ∈ partsOf state index (head :: tail) ↔
      part ∈ parts state index head ∨ part ∈ partsOf (next state index head) (index + 1) tail)
    (afterNone : ∀ state index, after state index [] = state)
    (afterMore : ∀ state index head tail,
      after state index (head :: tail) = after (next state index head) (index + 1) tail)
    (state : sigma) :
    part ∈ partsOf state index owners ↔ ∃ (number : Nat) (owner : alpha),
      owners[number]? = some owner ∧
        part ∈ parts (after state index (owners.take number)) (index + number) owner := by
  induction owners generalizing state index with
  | nil => simp [ofNone]
  | cons head tail inductionHypothesis =>
      rw [ofMore, inductionHypothesis]
      constructor
      · rintro (isHead | ⟨number, owner, isThere, inTail⟩)
        · refine ⟨0, head, rfl, ?_⟩
          rwa [List.take_zero, afterNone]
        · rw [← afterMore, Nat.add_right_comm] at inTail
          exact ⟨number + 1, owner, isThere, inTail⟩
      · rintro ⟨number, owner, isThere, isPart⟩
        cases number with
        | zero =>
            obtain rfl := Option.some.inj isThere
            rw [List.take_zero, afterNone] at isPart
            exact Or.inl isPart
        | succ number =>
            rw [List.take_succ_cons, afterMore, ← Nat.add_assoc, Nat.add_right_comm] at isPart
            exact Or.inr ⟨number, owner, isThere, isPart⟩

/-- What comes from several owners comes from one of them, behind what those before it declare. -/
theorem mem_declaring
    (partsOf : Region → Nat → List alpha → List beta) (parts : Region → Nat → alpha → List beta)
    (declares : alpha → Region) (ofNone : ∀ here index, part ∉ partsOf here index [])
    (ofMore : ∀ here index head tail, part ∈ partsOf here index (head :: tail) ↔
      part ∈ parts here index head ∨ part ∈ partsOf (here ++ declares head) (index + 1) tail)
    (here : Region) :
    part ∈ partsOf here index owners ↔ ∃ (number : Nat) (owner : alpha),
      owners[number]? = some owner ∧
        part ∈ parts (here ++ (owners.take number).flatMap declares) (index + number) owner :=
  mem_threaded partsOf parts (fun here _ head => here ++ declares head)
    (fun here _ earlier => here ++ earlier.flatMap declares) ofNone ofMore
    (fun here _ => List.append_nil here) (fun _ _ _ _ => (List.append_assoc ..).symm) here

/-- What comes from several owners at an address comes from one of them. -/
theorem mem_numbered
    {address : Address} {partsOf : Nat → List alpha → List beta}
    (parts : Address → alpha → List beta) (ofNone : ∀ index, part ∉ partsOf index [])
    (ofMore : ∀ index head tail, part ∈ partsOf index (head :: tail) ↔
      part ∈ parts (index :: address) head ∨ part ∈ partsOf (index + 1) tail) :
    part ∈ partsOf index owners ↔ ∃ (number : Nat) (owner : alpha),
      owners[number]? = some owner ∧ part ∈ parts ((index + number) :: address) owner :=
  mem_threaded (fun (_ : Unit) => partsOf) (fun _ index => parts (index :: address))
    (fun _ _ _ => ()) (fun _ _ _ => ()) (fun _ => ofNone) (fun _ => ofMore) (fun _ _ => rfl)
    (fun _ _ _ _ => rfl) ()

/-- What comes from several owners on a way down from some node comes from one of them. -/
theorem mem_reached
    {address : Address} (way : Address) {partsOf : Nat → List alpha → List beta}
    (parts : Address → alpha → List beta) (ofNone : ∀ index, part ∉ partsOf index [])
    (ofMore : ∀ index head tail, part ∈ partsOf index (head :: tail) ↔
      part ∈ parts (index :: (way ++ address)) head ∨ part ∈ partsOf (index + 1) tail) :
    part ∈ partsOf 0 owners ↔
      ∃ reached ∈ owners.mapIdx fun index owner => (index :: way, owner),
        part ∈ parts (reached.1 ++ address) reached.2 := by
  simp only [mem_numbered parts ofNone ofMore, Nat.zero_add]
  constructor
  · rintro ⟨number, owner, isThere, isPart⟩
    obtain ⟨isBelow, rfl⟩ := List.getElem?_eq_some_iff.mp isThere
    exact ⟨_, List.mem_mapIdx.mpr ⟨number, isBelow, rfl⟩, isPart⟩
  · rintro ⟨reached, isReached, isPart⟩
    obtain ⟨number, isBelow, rfl⟩ := List.mem_mapIdx.mp isReached
    exact ⟨number, _, List.getElem?_eq_getElem isBelow, isPart⟩

end Owners

/-! ## Findings -/

namespace VariableDecl

/-- What is found at a declaration of a variable, before which a region was declared. -/
def findings (entries : List Entry) (here : Region) (address : Address)
    (declaration : VariableDecl) : List Finding :=
  let complaint (kind : DiagnosticKind) : Finding :=
    .complaint kind address declaration.position [declaration.name]
  (if (entries.find? (·.key = ⟨.structs, declaration.name⟩)).isSome then
    [complaint .variableStructConflict] else []) ++
  ((if (entries.find? (·.key = ⟨.functions, declaration.name⟩)).isSome then
    [complaint .variableFunctionConflict] else []) ++
  (if declaration.name ∈ here.names then [complaint .duplicateVariable] else []))

/-- What is found at several declarations, numbered from an index on. -/
def findingsOf (entries : List Entry) (here : Region) (address : Address) (index : Nat) :
    List VariableDecl → List Finding
  | [] => []
  | head :: tail =>
      head.findings entries here (index :: address) ++
        findingsOf entries (here ++ [head]) address (index + 1) tail

end VariableDecl

namespace Stmt

mutual

/-- What a statement declares in the region in which it stands. -/
def declares : Stmt → Region
  | .block statements _ => declaresAll statements
  | .declare declared _ => declared
  | .loop _ body _ => declares body
  | .assign .. | .branch .. | .display .. | .append .. | .size .. | .call .. | .giveBack ..
  | .accessor .. | .stray _ | .absent => []

/-- What several statements declare in the region in which they stand. -/
def declaresAll : List Stmt → Region
  | [] => []
  | head :: tail => declares head ++ declaresAll tail

end

/-- What is found at a statement that holds the value of an expression, and below it. -/
def valueFindings (around : Surroundings) (address : Address) (position : Position)
    (expression : Expr) (fault? : Ty → Option DiagnosticKind) : List Finding :=
  expression.findings around (0 :: address) ++
    match fault? (expression.typeIn around) with
    | some kind => [.complaint kind address position []]
    | none => []

mutual

/-- What is found at a statement and below it, inside nested regions. -/
def findings (signature : Signature) (here : Region) (outer : List Region)
    (address : Address) : Stmt → List Finding
  | .block statements _ => findingsOf signature here outer address 0 statements
  | .declare declared _ =>
      VariableDecl.findingsOf signature.entries here address 0 declared
  | .assign target value position =>
      let around := signature.around (here :: outer)
      target.findings around (0 :: address) ++
        (value.findings around (1 :: address) ++
          Finding.settled address position
            (Rule.binaryOp .assign (target.typeIn around) (value.typeIn around)))
  | .branch condition thenBody elseBody position =>
      valueFindings (signature.around ([] :: here :: outer)) address position condition
          Rule.condition? ++
        (findings signature [] (here :: outer) (1 :: address) thenBody ++
          findings signature [] (here :: outer) (2 :: address) elseBody)
  | .loop condition body position =>
      valueFindings (signature.around (here :: outer)) address position condition
          Rule.condition? ++
        findings signature here outer (1 :: address) body
  | .display argument position =>
      valueFindings (signature.around (here :: outer)) address position argument Rule.display?
  | .append expression _ | .size expression _ | .call expression _ =>
      expression.findings (signature.around (here :: outer)) (0 :: address)
  | .giveBack none _ => []
  | .giveBack (some value) _ =>
      value.findings (signature.around (here :: outer)) (0 :: address)
  | .accessor .. | .stray _ | .absent => []

/-- What is found at several statements, numbered from an index on, and below them. -/
def findingsOf (signature : Signature) (here : Region) (outer : List Region)
    (address : Address) (index : Nat) : List Stmt → List Finding
  | [] => []
  | head :: tail =>
      findings signature here outer (index :: address) head ++
        findingsOf signature (here ++ head.declares) outer address (index + 1) tail

end

end Stmt

/-! ## Visits -/

/-- What is looked at in a visit. -/
inductive Subject
  | expression (expression : Expr)
  | statement (statement : Stmt)
  | declaration (declaration : VariableDecl)

/-- A visit of a node, inside nested regions of a program with a signature. -/
structure Visit where
  signature : Signature
  regions : List Region
  address : Address
  subject : Subject

namespace Stmt

/-- What is found at a statement itself. -/
def ownFindings (around : Surroundings) (address : Address) : Stmt → List Finding
  | .assign target value position =>
      Finding.settled address position
        (Rule.binaryOp .assign (target.typeIn around) (value.typeIn around))
  | .branch condition _ _ position | .loop condition _ position =>
      match Rule.condition? (condition.typeIn around) with
      | some kind => [.complaint kind address position []]
      | none => []
  | .display argument position =>
      match Rule.display? (argument.typeIn around) with
      | some kind => [.complaint kind address position []]
      | none => []
  | _ => []

end Stmt

namespace Stmt

/-- The expressions right below a statement, each with the way down to it. -/
def operands : Stmt → List (Address × Expr)
  | .assign target value _ => [([0], target), ([1], value)]
  | .branch condition _ _ _ | .loop condition _ _ => [([0], condition)]
  | .display argument _ => [([0], argument)]
  | .append expression _ | .size expression _ | .call expression _ => [([0], expression)]
  | .giveBack (some value) _ => [([0], value)]
  | .giveBack none _ | .block .. | .declare .. | .accessor .. | .stray _ | .absent => []

end Stmt

namespace Visit

/-- What is found in a visit. -/
def findings (visit : Visit) : List Finding :=
  match visit.subject with
  | .expression expression =>
      expression.ownFindings (visit.signature.around visit.regions) visit.address
  | .statement statement =>
      statement.ownFindings (visit.signature.around visit.regions) visit.address
  | .declaration declaration =>
      declaration.findings visit.signature.entries (visit.regions.headD []) visit.address

/-- What is found in some visits. -/
def findingsOf (visits : List Visit) : List Finding := visits.flatMap findings

/-- Whether a visit can be made. -/
def Fits (visit : Visit) : Prop :=
  match visit.subject with
  | .expression expression => expression.Fits (visit.signature.around visit.regions)
  | .statement statement => ∀ operand ∈ statement.operands, operand.2.IsProper
  | .declaration _ => True

/-- Visits that all can be made. -/
def AllFit (visits : List Visit) : Prop := ∀ visit ∈ visits, visit.Fits

theorem AllFit.append
    {earlier later : List Visit} (allFit : AllFit earlier) (allFitToo : AllFit later) :
    AllFit (earlier ++ later) :=
  List.forall_mem_append.mpr ⟨allFit, allFitToo⟩

theorem AllFit.cons
    {head : Visit} {tail : List Visit} (fits : head.Fits) (allFit : AllFit tail) :
    AllFit (head :: tail) :=
  List.forall_mem_cons.mpr ⟨fits, allFit⟩

theorem AllFit.snoc
    {visits : List Visit} {last : Visit} (allFit : AllFit visits) (fits : last.Fits) :
    AllFit (visits ++ [last]) :=
  allFit.append (AllFit.cons fits (List.forall_mem_nil _))

end Visit

/-- The visits of an expression and all below it. -/
def Expr.visits (signature : Signature) (regions : List Region) (address : Address)
    (expression : Expr) : List Visit :=
  (expression.parts address).map fun part => ⟨signature, regions, part.1, .expression part.2⟩

theorem Expr.AllFit.visits
    {signature : Signature} {regions : List Region} {address : Address} {expression : Expr}
    (allFit : AllFit (signature.around regions) (expression.parts address)) :
    Visit.AllFit (expression.visits signature regions address) := by
  intro visit member
  obtain ⟨part, isPart, rfl⟩ := List.mem_map.mp member
  exact allFit part isPart

/-- The visits of several declarations, numbered from an index on. -/
def VariableDecl.visitsOf (signature : Signature) (here : Region) (outer : List Region)
    (address : Address) (index : Nat) : List VariableDecl → List Visit
  | [] => []
  | head :: tail =>
      ⟨signature, here :: outer, index :: address, .declaration head⟩ ::
        visitsOf signature (here ++ [head]) outer address (index + 1) tail

theorem VariableDecl.allFit_visitsOf
    {signature : Signature} {here : Region} {outer : List Region} {address : Address}
    {index : Nat} (declarations : List VariableDecl) :
    Visit.AllFit (visitsOf signature here outer address index declarations) := by
  induction declarations generalizing here index with
  | nil => exact List.forall_mem_nil _
  | cons head tail inductionHypothesis => exact Visit.AllFit.cons trivial inductionHypothesis

namespace Stmt

mutual

/-- The visits of a statement and all below it, inside nested regions. The condition of an `if`
is looked at in the region of the first branch. -/
def visits (signature : Signature) (here : Region) (outer : List Region) (address : Address) :
    Stmt → List Visit
  | .block statements position =>
      visitsOf signature here outer address 0 statements ++
        [⟨signature, here :: outer, address, .statement (.block statements position)⟩]
  | .declare declared position =>
      VariableDecl.visitsOf signature here outer address 0 declared ++
        [⟨signature, here :: outer, address, .statement (.declare declared position)⟩]
  | .assign target value position =>
      target.visits signature (here :: outer) (0 :: address) ++
        (value.visits signature (here :: outer) (1 :: address) ++
          [⟨signature, here :: outer, address, .statement (.assign target value position)⟩])
  | .branch condition thenBody elseBody position =>
      condition.visits signature ([] :: here :: outer) (0 :: address) ++
        (⟨signature, [] :: here :: outer, address,
            .statement (.branch condition thenBody elseBody position)⟩ ::
          (visits signature [] (here :: outer) (1 :: address) thenBody ++
            visits signature [] (here :: outer) (2 :: address) elseBody))
  | .loop condition body position =>
      condition.visits signature (here :: outer) (0 :: address) ++
        (⟨signature, here :: outer, address, .statement (.loop condition body position)⟩ ::
          visits signature here outer (1 :: address) body)
  | .display argument position =>
      argument.visits signature (here :: outer) (0 :: address) ++
        [⟨signature, here :: outer, address, .statement (.display argument position)⟩]
  | .append expression position =>
      expression.visits signature (here :: outer) (0 :: address) ++
        [⟨signature, here :: outer, address, .statement (.append expression position)⟩]
  | .size expression position =>
      expression.visits signature (here :: outer) (0 :: address) ++
        [⟨signature, here :: outer, address, .statement (.size expression position)⟩]
  | .call expression position =>
      expression.visits signature (here :: outer) (0 :: address) ++
        [⟨signature, here :: outer, address, .statement (.call expression position)⟩]
  | .giveBack none position =>
      [⟨signature, here :: outer, address, .statement (.giveBack none position)⟩]
  | .giveBack (some value) position =>
      value.visits signature (here :: outer) (0 :: address) ++
        [⟨signature, here :: outer, address, .statement (.giveBack (some value) position)⟩]
  | .accessor .. | .stray _ | .absent => []

/-- The visits of several statements, numbered from an index on, and all below them. -/
def visitsOf (signature : Signature) (here : Region) (outer : List Region) (address : Address)
    (index : Nat) : List Stmt → List Visit
  | [] => []
  | head :: tail =>
      visits signature here outer (index :: address) head ++
        visitsOf signature (here ++ head.declares) outer address (index + 1) tail

end

/-- One of several statements is visited in the region that those before it leave. -/
theorem mem_visitsOf
    {signature : Signature} {here : Region} {outer : List Region} {address : Address}
    {index : Nat} {statements : List Stmt} {visit : Visit} :
    visit ∈ visitsOf signature here outer address index statements ↔
      ∃ (number : Nat) (statement : Stmt), statements[number]? = some statement ∧
        visit ∈ statement.visits signature (here ++ declaresAll (statements.take number)) outer
          ((index + number) :: address) :=
  mem_threaded (fun near => visitsOf signature near outer address)
    (fun near place statement => statement.visits signature near outer (place :: address))
    (fun near _ head => near ++ head.declares) (fun near _ earlier => near ++ declaresAll earlier)
    (fun _ _ => List.not_mem_nil) (fun _ _ _ _ => List.mem_append)
    (fun near _ => List.append_nil near) (fun _ _ _ _ => (List.append_assoc ..).symm) here

end Stmt

/-! ## What is found is what is found in visits -/

theorem Expr.findings_visits
    {signature : Signature} {regions : List Region} {address : Address} (expression : Expr) :
    Visit.findingsOf (expression.visits signature regions address) =
      expression.findings (signature.around regions) address := by
  rw [Expr.findings_eq, Visit.findingsOf, Expr.visits, List.flatMap_map]
  rfl

theorem VariableDecl.findings_visitsOf
    {signature : Signature} {here : Region} {outer : List Region} {address : Address}
    {index : Nat} (declarations : List VariableDecl) :
    Visit.findingsOf (visitsOf signature here outer address index declarations) =
      findingsOf signature.entries here address index declarations := by
  induction declarations generalizing here index with
  | nil => rfl
  | cons head tail inductionHypothesis =>
      rw [visitsOf, findingsOf, ← inductionHypothesis]
      rfl

theorem Visit.findingsOf_append
    (earlier later : List Visit) :
    findingsOf (earlier ++ later) = findingsOf earlier ++ findingsOf later :=
  List.flatMap_append

theorem Visit.findingsOf_cons
    (head : Visit) (tail : List Visit) :
    findingsOf (head :: tail) = head.findings ++ findingsOf tail := rfl

theorem Visit.findingsOf_singleton
    (visit : Visit) : findingsOf [visit] = visit.findings :=
  List.flatMap_singleton findings visit

namespace Stmt

mutual

theorem findings_visits
    {signature : Signature} {here : Region} {outer : List Region} {address : Address} :
    (statement : Stmt) →
      Visit.findingsOf (statement.visits signature here outer address) =
        statement.findings signature here outer address
  | .block statements _ => by
      rw [visits, Visit.findingsOf_append, findings_visitsOf statements]
      exact List.append_nil _
  | .declare declared _ => by
      rw [visits, Visit.findingsOf_append, VariableDecl.findings_visitsOf declared]
      exact List.append_nil _
  | .assign target value position => by
      rw [visits, Visit.findingsOf_append, Visit.findingsOf_append, target.findings_visits,
        value.findings_visits, Visit.findingsOf_singleton]
      rfl
  | .branch condition thenBody elseBody position => by
      rw [visits, Visit.findingsOf_append, Visit.findingsOf_cons, Visit.findingsOf_append,
        condition.findings_visits, findings_visits thenBody, findings_visits elseBody,
        ← List.append_assoc]
      rfl
  | .loop condition body position => by
      rw [visits, Visit.findingsOf_append, Visit.findingsOf_cons, condition.findings_visits,
        findings_visits body, ← List.append_assoc]
      rfl
  | .display argument position => by
      rw [visits, Visit.findingsOf_append, argument.findings_visits,
        Visit.findingsOf_singleton]
      rfl
  | .append expression _ | .size expression _ | .call expression _ => by
      rw [visits, Visit.findingsOf_append, expression.findings_visits]
      exact List.append_nil _
  | .giveBack none _ => rfl
  | .giveBack (some value) _ => by
      rw [visits, Visit.findingsOf_append, value.findings_visits]
      exact List.append_nil _
  | .accessor .. | .stray _ | .absent => rfl

theorem findings_visitsOf
    {signature : Signature} {here : Region} {outer : List Region} {address : Address}
    {index : Nat} :
    (statements : List Stmt) →
      Visit.findingsOf (visitsOf signature here outer address index statements) =
        findingsOf signature here outer address index statements
  | [] => rfl
  | head :: tail => by
      rw [visitsOf, findingsOf, Visit.findingsOf_append, findings_visits head,
        findings_visitsOf tail]

end

end Stmt

/-! ## Findings of visits are types and complaints -/

/-- What can be wrong with the name of a variable. -/
def VariableDecl.faults : List DiagnosticKind :=
  [.variableStructConflict, .variableFunctionConflict, .duplicateVariable]

/-- At a declaration nothing is found but complaints about its name. -/
theorem VariableDecl.exists_of_mem_findings
    {entries : List Entry} {here : Region} {address : Address} {declaration : VariableDecl}
    {finding : Finding} (isFound : finding ∈ declaration.findings entries here address) :
    ∃ kind ∈ faults,
      finding = .complaint kind address declaration.position [declaration.name] := by
  have ofCondition {isSo : Prop} [Decidable isSo] {kind : DiagnosticKind} (isKind : kind ∈ faults)
      (member : finding ∈ if isSo then
        [Finding.complaint kind address declaration.position [declaration.name]] else []) :
      ∃ kind ∈ faults,
        finding = .complaint kind address declaration.position [declaration.name] := by
    split at member
    · exact ⟨kind, isKind, List.mem_singleton.mp member⟩
    · cases member
  simp only [findings, List.mem_append] at isFound
  rcases isFound with ofStruct | ofFunction | isKnown
  · exact ofCondition (by simp [faults]) ofStruct
  · exact ofCondition (by simp [faults]) ofFunction
  · exact ofCondition (by simp [faults]) isKnown

namespace Stmt

/-- At an assignment itself there is a verdict, and at any other statement there is one complaint at
the most. -/
theorem ownFindings_cases
    (around : Surroundings) (address : Address) (statement : Stmt) :
    (∃ target value position, statement = .assign target value position) ∨
      statement.ownFindings around address = [] ∨
      ∃ kind, statement.ownFindings around address =
        [.complaint kind address statement.position []] := by
  cases statement with
  | assign target value position => exact .inl ⟨target, value, position, rfl⟩
  | branch | loop | display =>
      refine .inr ?_
      simp only [ownFindings]
      split
      · exact .inr ⟨_, rfl⟩
      · exact .inl rfl
  | _ => exact .inr (.inl rfl)

theorem isNote_ownFindings
    {around : Surroundings} {address : Address} (statement : Stmt) :
    ∀ finding ∈ statement.ownFindings around address, finding.isNote := by
  obtain ⟨_, _, _, rfl⟩ | isNothing | ⟨kind, isOne⟩ := ownFindings_cases around address statement
  · exact Finding.isNote_settled
  · exact isNothing ▸ List.forall_mem_nil _
  · exact isOne ▸ List.forall_mem_singleton.mpr rfl

theorem isNote_declaration
    {entries : List Entry} {here : Region} {address : Address} (declaration : VariableDecl) :
    ∀ finding ∈ declaration.findings entries here address, finding.isNote := by
  intro finding isFound
  obtain ⟨kind, -, rfl⟩ := VariableDecl.exists_of_mem_findings isFound
  rfl

theorem isNote_declarations
    {entries : List Entry} {here : Region} {address : Address} {index : Nat}
    (declarations : List VariableDecl) :
    ∀ finding ∈ VariableDecl.findingsOf entries here address index declarations,
      finding.isNote := by
  induction declarations generalizing here index with
  | nil => exact List.forall_mem_nil _
  | cons head tail inductionHypothesis =>
      exact List.forall_mem_append.mpr ⟨isNote_declaration head, inductionHypothesis⟩

end Stmt

theorem Visit.isNote_findings
    (visit : Visit) : ∀ finding ∈ visit.findings, finding.isNote := by
  obtain ⟨signature, regions, address, subject⟩ := visit
  cases subject with
  | expression expression => exact Finding.isNote_settled
  | statement statement => exact statement.isNote_ownFindings
  | declaration declaration => exact Stmt.isNote_declaration declaration

theorem Visit.isNote_findingsOf
    (visits : List Visit) : ∀ finding ∈ findingsOf visits, finding.isNote := by
  intro finding member
  obtain ⟨visit, -, isOwn⟩ := List.mem_flatMap.mp member
  exact visit.isNote_findings finding isOwn

theorem Stmt.isNote_findings
    {signature : Signature} {here : Region} {outer : List Region} {address : Address}
    (statement : Stmt) :
    ∀ finding ∈ statement.findings signature here outer address, finding.isNote := by
  rw [← findings_visits]
  exact Visit.isNote_findingsOf _

theorem Stmt.isNote_valueFindings
    {around : Surroundings} {address : Address} {position : Position} {expression : Expr}
    {fault? : Ty → Option DiagnosticKind} :
    ∀ finding ∈ valueFindings around address position expression fault?, finding.isNote := by
  refine List.forall_mem_append.mpr ⟨expression.isNote_findings, ?_⟩
  split <;> simp [Finding.complaint, Finding.isNote]

end StructLang
