import StructLang.Proofs.Check.Visits

/-!
# What the check of a statement finds

A statement stands in nested regions. The innermost one grows by what the statement declares, so
later statements see it; what a branch declares is seen in that branch only.
-/

namespace StructLang

open Check ScopeStore

/-- A step finds some things and leaves behind scopes of which something holds. -/
def Leaves (state : CheckState) (findings : List Finding) (about : ScopeStore → Prop) :
    Unit → CheckState → Prop :=
  fun _ final => ∃ store, final = (state.notingAll findings).withScopes store ∧ about store

theorem Leaves.after
    {state final : CheckState} {store : ScopeStore} {earlier later : List Finding}
    {about aboutToo : ScopeStore → Prop} {found : Unit}
    (leaves : Leaves ((state.notingAll earlier).withScopes store) later about found final)
    (weaker : ∀ reached, about reached → aboutToo reached) :
    Leaves state (earlier ++ later) aboutToo found final := by
  obtain ⟨reached, isFinal, isSo⟩ := leaves
  refine ⟨reached, ?_, weaker reached isSo⟩
  rw [isFinal, CheckState.notingAll_withScopes, CheckState.withScopes_withScopes,
    CheckState.notingAll_append]

/-! ## Declarations -/

namespace VariableDecl

/-- The innermost scope of a store shows a region, and is not the outermost one. -/
structure Within (here : Region) (scope : ScopeId) (store : ScopeStore) : Prop where
  top : store.top? = some scope
  notRoot : scope ≠ 0
  shows : ∃ found, store.scopes[scope]? = some found ∧ found.Shows here

theorem Within.find?_eq
    {here : Region} {scope : ScopeId} {store : ScopeStore} (within : Within here scope store)
    (name : String) :
    store.find? scope ⟨.vars, name⟩ =
      (here.declarationOf? name).map VariableDecl.entry := by
  obtain ⟨found, isFound, shows⟩ := within.shows
  rw [ScopeStore.find?_eq _ isFound, shows name]

/-- A store in which the innermost scope has the entries of more declarations. -/
def declareIn (store : ScopeStore) (scope : ScopeId) (here declared : Region) : ScopeStore :=
  store.extend scope ((firstsBeside here.names declared).map VariableDecl.entry)

theorem Within.declare
    {here : Region} {scope : ScopeId} {store : ScopeStore}
    (within : Within here scope store) (declared : Region) :
    Within (here ++ declared) scope (declareIn store scope here declared) := by
  obtain ⟨found, isFound, shows⟩ := within.shows
  exact ⟨within.top, within.notRoot, _, extend_self _ isFound, shows.extend declared⟩

/-- Declarations in the innermost scope leave what stands in the outermost one. -/
theorem Within.rooted
    {entries : List Entry} {here : Region} {scope : ScopeId} {store : ScopeStore}
    (within : Within here scope store) (rooted : Rooted entries store) (declared : Region) :
    Rooted entries (declareIn store scope here declared) :=
  rooted.of_altersOnly (AltersOnly.extend _ _ _) (by simpa using within.notRoot.symm)

theorem declareIn_declareIn
    (store : ScopeStore) (scope : ScopeId) (here earlier later : Region) :
    declareIn (declareIn store scope here earlier) scope (here ++ earlier) later =
      declareIn store scope here (earlier ++ later) := by
  simp only [declareIn, extend_extend, Region.firstsBeside_append, List.map_append,
    Region.names]

theorem ends_tryInsert
    {alpha : Type} {mayFail : Prop} {state : CheckState} {here : Region} {scope : ScopeId}
    {next : Bool → Check alpha} {holds : alpha → CheckState → Prop}
    (within : Within here scope state.scopes) (declaration : VariableDecl)
    (ends : Ends mayFail (next !decide (declaration.name ∈ here.names))
      (state.withScopes (declareIn state.scopes scope here [declaration])) holds) :
    Ends mayFail (tryInsert declaration.entry >>= next) state holds := by
  have isKey : state.scopes.find? scope declaration.entry.key = none ↔
      declaration.name ∉ here.names := by
    rw [show declaration.entry.key = ⟨.vars, declaration.name⟩ from rfl,
      within.find?_eq, Option.map_eq_none_iff, Region.declarationOf?_eq_none]
  refine Check.ends_tryInsert within.top (fun isFree => ?_) fun isKnown => ?_
  · rw [isKey] at isFree
    simpa [declareIn, firstsBeside, isFree] using ends
  · rw [ne_eq, isKey, Classical.not_not] at isKnown
    simpa [declareIn, firstsBeside, isKnown, extend_nil] using ends

theorem ends_check
    {mayFail : Prop} {state : CheckState} {entries : List Entry} {here : Region}
    {scope : ScopeId} (address : Address) (rooted : Rooted entries state.scopes)
    (within : Within here scope state.scopes) (declaration : VariableDecl) :
    Ends mayFail (declaration.check address) state
      (Leaves state (declaration.findings entries here address)
        (· = declareIn state.scopes scope here [declaration])) := by
  refine Ends.afterGet ?_
  simp only [rooted.lookupRoot?_eq]
  refine ends_reportIf (ends_reportIf ?_)
  rw [← CheckState.notingAll_append]
  have withinStill (noted : List Finding) :
      Within here scope (state.notingAll noted).scopes := by
    rwa [CheckState.notingAll_scopes]
  refine ends_tryInsert (withinStill _) declaration ?_
  simp only [findings, CheckState.notingAll_scopes]
  by_cases isTaken : declaration.name ∈ here.names
  · simp only [isTaken, decide_true, Bool.not_true, Bool.not_false, if_true]
    refine ends_report ⟨_, ?_, rfl⟩
    rw [CheckState.notingAll_withScopes, ← CheckState.notingAll_append, List.append_assoc]
  · simp only [isTaken, decide_false, Bool.not_true, Bool.not_false, if_false]
    refine Ends.pure ⟨_, ?_, rfl⟩
    rw [List.append_nil]

theorem ends_checkAll
    {mayFail : Prop} {state : CheckState} {entries : List Entry} {here : Region}
    {scope : ScopeId} (address : Address) (index : Nat) (rooted : Rooted entries state.scopes)
    (within : Within here scope state.scopes) (declarations : List VariableDecl) :
    Ends mayFail (checkAll address index declarations) state
      (Leaves state (findingsOf entries here address index declarations)
        (· = declareIn state.scopes scope here declarations)) := by
  induction declarations generalizing state here index with
  | nil =>
      refine Ends.pure ⟨state.scopes, rfl, ?_⟩
      simp [declareIn, firstsBeside, extend_nil]
  | cons head tail inductionHypothesis =>
      refine (ends_check (index :: address) rooted within head).bind ?_
      rintro _ _ ⟨_, rfl, rfl⟩
      refine (inductionHypothesis (index + 1) (within.rooted rooted [head])
        (within.declare [head])).imp
        fun _ _ leaves => Leaves.after leaves fun reached isReached => ?_
      rw [isReached]
      exact declareIn_declareIn _ _ _ _ _

end VariableDecl

/-! ## Statements -/

namespace Stmt

/-- A step stays inside nested regions, of which the innermost may have grown. Of the scopes there
were it alters no other than the innermost one. -/
def Stays (signature : Signature) (scope : ScopeId) (rest : List ScopeId)
    (regions : List Region) (before after : ScopeStore) : Prop :=
  AltersOnly [scope] before after ∧ signature.Inside (scope :: rest) regions after

variable {signature : Signature} {scope : ScopeId} {rest : List ScopeId} {here : Region}
  {outer : List Region} {state : CheckState}

theorem withoutResult_of_notes
    {findings : List Finding} {store : ScopeStore}
    (areNotes : ∀ finding ∈ findings, finding.isNote)
    (isLost : state.withoutResult = signature.lost) :
    ((state.notingAll findings).withScopes store).withoutResult = signature.lost := by
  rw [CheckState.withScopes_withoutResult, CheckState.notingAll_of_notes _ areNotes]
  exact isLost

/-- A statement that only checks an expression declares nothing. -/
theorem ends_expression
    (address : Address) (inside : signature.Inside (scope :: rest) (here :: outer) state.scopes)
    (isLost : state.withoutResult = signature.lost) (statement : Stmt) {expression : Expr}
    (isOnly : statement.operands = [([0], expression)]) :
    Ends (¬ expression.Written) (discard (expression.check (0 :: address))) state
      (Leaves state (expression.findings (signature.around (here :: outer)) (0 :: address))
        fun store =>
          Visit.AllFit (expression.visits signature (here :: outer) (0 :: address) ++
            [⟨signature, here :: outer, address, .statement statement⟩]) ∧
          Stays signature scope rest ((here ++ []) :: outer) state.scopes store) := by
  rw [List.append_nil]
  refine (expression.ends_check (0 :: address) (inside.surroundings_eq isLost)).bind ?_
  rintro _ _ ⟨⟨proper, allFit⟩, -, rfl, -⟩
  refine Ends.pure ⟨state.scopes, (CheckState.notingAll_withScopes_scopes _ _).symm, ?_,
    AltersOnly.refl _, inside⟩
  have fits : Visit.Fits ⟨signature, here :: outer, address, .statement statement⟩ := by
    simpa [Visit.Fits, isOnly] using proper
  exact allFit.visits.snoc fits

theorem ends_checkValue
    {fault? : Ty → Option DiagnosticKind} (address : Address) (position : Position)
    (inside : signature.Inside (scope :: rest) (here :: outer) state.scopes)
    (isLost : state.withoutResult = signature.lost) (expression : Expr) :
    Ends (¬ expression.Written) (checkValue address position expression fault?) state
      (Leaves state
        (valueFindings (signature.around (here :: outer)) address position expression fault?)
        fun store => expression.IsProper ∧
          Visit.AllFit (expression.visits signature (here :: outer) (0 :: address)) ∧
            store = state.scopes) := by
  refine (expression.ends_check (0 :: address) (inside.surroundings_eq isLost)).bind ?_
  rintro _ _ ⟨⟨proper, allFit⟩, rfl, rfl, -⟩
  simp only [valueFindings]
  cases fault? (expression.typeIn (signature.around (here :: outer))) with
  | some kind =>
      refine ends_report ⟨state.scopes, ?_, proper, allFit.visits, rfl⟩
      rw [CheckState.notingAll_withScopes_scopes, CheckState.notingAll_append]
  | none =>
      refine Ends.pure ⟨state.scopes, ?_, proper, allFit.visits, rfl⟩
      rw [CheckState.notingAll_withScopes_scopes, List.append_nil]

/-- A step in a new scope leaves the scopes around it as they were. -/
theorem ends_branch
    {mayFail isSo : Prop} {step : Check Unit} {findings : List Finding} (declared : Region)
    (inside : signature.Inside (scope :: rest) (here :: outer) state.scopes)
    (ends : ∀ store, signature.Inside (state.scopes.fresh :: scope :: rest)
        ([] :: here :: outer) store →
      Ends mayFail step (state.withScopes store)
        (Leaves (state.withScopes store) findings fun reached => isSo ∧
          Stays signature state.scopes.fresh (scope :: rest) (declared :: here :: outer) store
            reached)) :
    Ends mayFail (inNewScope step) state
      (Leaves state findings fun store =>
        isSo ∧ Stays signature scope rest (here :: outer) state.scopes store) := by
  refine ends_inNewScope ((ends _ inside.push_new).imp ?_)
  rintro _ _ ⟨store, rfl, isTrue, alters, -⟩
  have outside : AltersOnly [] state.scopes store.pop := AltersOnly.inNewScope alters
  exact ⟨store.pop, by simp, isTrue, outside.mono nofun, inside.of_altersOnly outside nofun⟩

theorem Stays.trans
    {regions between : List Region} {first second third : ScopeStore}
    (earlier : Stays signature scope rest between first second)
    (later : Stays signature scope rest regions second third) :
    Stays signature scope rest regions first third :=
  ⟨earlier.1.trans later.1, later.2⟩

theorem within_of_inside
    {store : ScopeStore} (inside : signature.Inside (scope :: rest) (here :: outer) store) :
    VariableDecl.Within here scope store := by
  refine ⟨inside.top, fun isRoot => ?_, ?_⟩
  · subst isRoot
    cases inside.mirrors with
    | within _ mirrorsOuter =>
        exact (List.nodup_cons.mp inside.distinct).1 mirrorsOuter.root_mem
  · cases inside.mirrors with
    | within isFound _ => exact ⟨_, isFound, Scope.shows_entries _ _⟩

theorem ends_declarations
    {mayFail : Prop} (address : Address) (index : Nat)
    (inside : signature.Inside (scope :: rest) (here :: outer) state.scopes)
    (declared : List VariableDecl) :
    Ends mayFail (VariableDecl.checkAll address index declared) state
      (Leaves state
        (VariableDecl.findingsOf signature.entries here address index declared)
        (Stays signature scope rest ((here ++ declared) :: outer) state.scopes)) := by
  refine (VariableDecl.ends_checkAll address index inside.fits.rooted (within_of_inside inside)
    declared).imp ?_
  rintro _ _ ⟨_, isFinal, rfl⟩
  exact ⟨_, isFinal, AltersOnly.extend _ _ _, inside.extend declared⟩

/-! ### The branches of an `if` -/

/-- The check of a statement finds just its findings, in whatever regions the statement stands. -/
def FindsJust (signature : Signature) (address : Address) (statement : Stmt) : Prop :=
  ∀ {scope : ScopeId} {rest : List ScopeId} {here : Region} {outer : List Region}
    (state : CheckState), signature.Inside (scope :: rest) (here :: outer) state.scopes →
      state.withoutResult = signature.lost →
        Ends (¬ statement.Written) (statement.check address) state
          (Leaves state (statement.findings signature here outer address) fun store =>
            Visit.AllFit (statement.visits signature here outer address) ∧
              Stays signature scope rest ((here ++ statement.declares) :: outer) state.scopes
                store)

/-- The condition is looked at inside the scope of the first branch. -/
theorem ends_thenBranch
    {address : Address} {thenBody : Stmt} (condition : Expr) (position : Position)
    (findsThen : thenBody.FindsJust signature (1 :: address))
    (inside : signature.Inside (scope :: rest) (here :: outer) state.scopes)
    (isLost : state.withoutResult = signature.lost) :
    Ends (¬ (condition.Written ∧ thenBody.Written))
      (inNewScope do
        checkValue address position condition Rule.condition?
        thenBody.check (1 :: address)) state
      (Leaves state
        (valueFindings (signature.around ([] :: here :: outer)) address position condition
          Rule.condition? ++ thenBody.findings signature [] (here :: outer) (1 :: address))
        fun store => (condition.IsProper ∧
          Visit.AllFit (condition.visits signature ([] :: here :: outer) (0 :: address)) ∧
          Visit.AllFit (thenBody.visits signature [] (here :: outer) (1 :: address))) ∧
            Stays signature scope rest (here :: outer) state.scopes store) := by
  refine ends_branch thenBody.declares inside fun store insideThen => ?_
  have insideHere : signature.Inside (state.scopes.fresh :: scope :: rest)
      ([] :: here :: outer) (state.withScopes store).scopes := insideThen
  refine ((ends_checkValue address position insideHere isLost condition).orFail
    fun some written => some written.1).bind ?_
  rintro _ _ ⟨_, rfl, proper, fitCondition, rfl⟩
  refine Ends.weaken (findsThen _ insideThen ?_) (fun some written => some written.2) ?_
  · exact withoutResult_of_notes isNote_valueFindings isLost
  · exact fun _ _ leaves => Leaves.after leaves fun _ stays =>
      ⟨⟨proper, fitCondition, stays.1⟩, stays.2⟩

theorem ends_elseBranch
    {address : Address} {elseBody : Stmt} (findsElse : elseBody.FindsJust signature (2 :: address))
    (inside : signature.Inside (scope :: rest) (here :: outer) state.scopes)
    (isLost : state.withoutResult = signature.lost) :
    Ends (¬ elseBody.Written) (inNewScope (elseBody.check (2 :: address))) state
      (Leaves state (elseBody.findings signature [] (here :: outer) (2 :: address)) fun store =>
        Visit.AllFit (elseBody.visits signature [] (here :: outer) (2 :: address)) ∧
          Stays signature scope rest (here :: outer) state.scopes store) := by
  refine ends_branch elseBody.declares inside fun store insideElse => ?_
  exact findsElse (state.withScopes store) insideElse isLost

theorem ends_checkBranch
    {address : Address} {thenBody elseBody : Stmt} (condition : Expr) (position : Position)
    (findsThen : thenBody.FindsJust signature (1 :: address))
    (findsElse : elseBody.FindsJust signature (2 :: address))
    (inside : signature.Inside (scope :: rest) (here :: outer) state.scopes)
    (isLost : state.withoutResult = signature.lost) :
    Ends (¬ (branch condition thenBody elseBody position).Written)
      ((branch condition thenBody elseBody position).check address) state
      (Leaves state ((branch condition thenBody elseBody position).findings signature here outer
          address) fun store =>
        Visit.AllFit ((branch condition thenBody elseBody position).visits signature here outer
            address) ∧
          Stays signature scope rest
            ((here ++ declares (.branch condition thenBody elseBody position)) :: outer)
            state.scopes store) := by
  have declaresNothing :
      here ++ declares (.branch condition thenBody elseBody position) = here :=
    List.append_nil here
  rw [declaresNothing, check.eq_def]
  dsimp only
  refine ((ends_thenBranch condition position findsThen inside isLost).orFail
    fun some written => some ⟨written.1, written.2.1⟩).bind ?_
  rintro _ _ ⟨store, rfl, ⟨proper, fitCondition, fitThen⟩, earlier⟩
  have fits : Visit.Fits ⟨signature, [] :: here :: outer, address,
      .statement (branch condition thenBody elseBody position)⟩ := by
    simp [Visit.Fits, operands, proper]
  split
  case h_1 =>
    refine Ends.pure ⟨store, ?_, ?_, earlier⟩
    · rw [findings, findings, List.append_nil]
    · exact fitCondition.append (.cons fits (fitThen.append (List.forall_mem_nil _)))
  case h_2 notAbsent =>
    refine Ends.weaken (ends_elseBranch findsElse earlier.2 ?_)
      (fun some written => some (written.2.2.resolve_left notAbsent)) ?_
    · exact withoutResult_of_notes
        (List.forall_mem_append.mpr ⟨isNote_valueFindings, isNote_findings thenBody⟩) isLost
    · intro _ _ leaves
      rw [findings, ← List.append_assoc]
      refine Leaves.after leaves fun _ stays => ⟨?_, earlier.trans stays.2⟩
      exact fitCondition.append (.cons fits (fitThen.append stays.1))

/-! ### All statements -/

mutual

theorem ends_check
    {signature : Signature} {scope : ScopeId} {rest : List ScopeId} {here : Region}
    {outer : List Region} {state : CheckState} (address : Address)
    (inside : signature.Inside (scope :: rest) (here :: outer) state.scopes)
    (isLost : state.withoutResult = signature.lost) :
    (statement : Stmt) →
      Ends (¬ statement.Written) (statement.check address) state
        (Leaves state (statement.findings signature here outer address) fun store =>
          Visit.AllFit (statement.visits signature here outer address) ∧
            Stays signature scope rest ((here ++ statement.declares) :: outer) state.scopes
              store)
  | .absent =>
      Ends.pure ⟨state.scopes, rfl, List.forall_mem_nil _, AltersOnly.refl _,
        by simpa [declares] using inside⟩
  | .block statements _ => by
      refine (ends_checkAll address 0 inside isLost statements).imp ?_
      rintro _ _ ⟨store, isFinal, allFit, stays⟩
      exact ⟨store, isFinal, allFit.snoc (List.forall_mem_nil _), stays⟩
  | .declare declared _ => by
      refine (ends_declarations address 0 inside declared).imp ?_
      rintro _ _ ⟨store, isFinal, stays⟩
      exact ⟨store, isFinal,
        (VariableDecl.allFit_visitsOf declared).snoc (List.forall_mem_nil _), stays⟩
  | .assign target value position => by
      have isAround := inside.surroundings_eq isLost
      refine ((target.ends_check (0 :: address) isAround).orFail fun some written =>
        some written.1).bind ?_
      rintro _ _ ⟨⟨properTarget, fitTarget⟩, rfl, rfl, same⟩
      refine ((value.ends_check (1 :: address) (same.trans isAround)).orFail
        fun some written => some written.2).bind ?_
      rintro _ _ ⟨⟨properValue, fitValue⟩, rfl, rfl, -⟩
      refine Ends.discarding (ends_settle ⟨state.scopes, ?_, ?_, AltersOnly.refl _, ?_⟩)
      · rw [CheckState.notingAll_withScopes_scopes, findings, CheckState.notingAll_append,
          CheckState.notingAll_append]
      · have fits : Visit.Fits ⟨signature, here :: outer, address,
            .statement (assign target value position)⟩ := by
          simp [Visit.Fits, operands, properTarget, properValue]
        exact fitTarget.visits.append (fitValue.visits.snoc fits)
      · simpa [declares] using inside
  | .branch condition thenBody elseBody position =>
      ends_checkBranch condition position
        (fun _ insideThen lostThen => ends_check (1 :: address) insideThen lostThen thenBody)
        (fun _ insideElse lostElse => ends_check (2 :: address) insideElse lostElse elseBody)
        inside isLost
  | .loop condition body position => by
      refine ((ends_checkValue address position inside isLost condition).orFail
        fun some written => some written.1).bind ?_
      rintro _ _ ⟨store, rfl, proper, fitCondition, isStore⟩
      have insideStill : signature.Inside (scope :: rest) (here :: outer) store :=
        isStore ▸ inside
      have fits : Visit.Fits ⟨signature, here :: outer, address,
          .statement (loop condition body position)⟩ := by
        simp [Visit.Fits, operands, proper]
      refine Ends.weaken (ends_check (1 :: address) insideStill ?_ body)
        (fun some written => some written.2) ?_
      · exact withoutResult_of_notes isNote_valueFindings isLost
      · rw [isStore]
        exact fun _ _ leaves => Leaves.after leaves fun _ stays =>
          ⟨fitCondition.append (.cons fits stays.1), stays.2⟩
  | .display argument position => by
      refine ((ends_checkValue address position inside isLost argument)).imp ?_
      rintro _ _ ⟨_, isFinal, proper, fitArgument, rfl⟩
      have fits : Visit.Fits ⟨signature, here :: outer, address,
          .statement (display argument position)⟩ := by
        simp [Visit.Fits, operands, proper]
      exact ⟨_, isFinal, fitArgument.snoc fits, AltersOnly.refl _,
        by simpa [declares] using inside⟩
  | .append expression position =>
      ends_expression address inside isLost (.append expression position) rfl
  | .size expression position =>
      ends_expression address inside isLost (.size expression position) rfl
  | .call expression position =>
      ends_expression address inside isLost (.call expression position) rfl
  | .giveBack none _ =>
      Ends.pure ⟨state.scopes, rfl, Visit.AllFit.cons (List.forall_mem_nil _)
        (List.forall_mem_nil _), AltersOnly.refl _, by simpa [declares] using inside⟩
  | .giveBack (some value) position =>
      ends_expression address inside isLost (.giveBack (some value) position) rfl
  | .accessor .. => Ends.throw id
  | .stray node => Ends.throw id

theorem ends_checkAll
    {signature : Signature} {scope : ScopeId} {rest : List ScopeId} {here : Region}
    {outer : List Region} {state : CheckState} (address : Address) (index : Nat)
    (inside : signature.Inside (scope :: rest) (here :: outer) state.scopes)
    (isLost : state.withoutResult = signature.lost) :
    (statements : List Stmt) →
      Ends (¬ WrittenAll statements) (checkAll address index statements) state
        (Leaves state (findingsOf signature here outer address index statements) fun store =>
          Visit.AllFit (visitsOf signature here outer address index statements) ∧
            Stays signature scope rest ((here ++ declaresAll statements) :: outer)
              state.scopes store)
  | [] =>
      Ends.pure ⟨state.scopes, rfl, List.forall_mem_nil _, AltersOnly.refl _,
        by simpa [declaresAll] using inside⟩
  | head :: tail => by
      refine ((ends_check (index :: address) inside isLost head).orFail fun some written =>
        some written.1).bind ?_
      rintro _ _ ⟨store, rfl, fitHead, earlier⟩
      refine Ends.weaken (ends_checkAll address (index + 1) earlier.2 ?_ tail)
        (fun some written => some written.2) ?_
      · exact withoutResult_of_notes (isNote_findings head) isLost
      refine fun _ _ leaves => Leaves.after leaves fun reached later => ?_
      rw [declaresAll, ← List.append_assoc]
      exact ⟨fitHead.append later.1, earlier.trans later.2⟩

end

end Stmt

end StructLang
