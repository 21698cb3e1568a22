import StructLang.Proofs.Check.Declarations

/-!
# What the check of bodies finds

A function is checked in its own scope, inside a new one: first its body, then its parameters,
which come behind what the body declares, then its result. Only the result can take something
away from the signature. The main body is checked in a new scope right inside the outermost one.
-/

namespace StructLang

open Check ScopeStore

namespace FunctionDecl

/-- What is found at the result of a function. -/
def resultFindings (entries : List Entry) (address : Address) (declaration : FunctionDecl) :
    List Finding :=
  match declaration.result with
  | .struct name =>
      if (entries.find? (·.key = ⟨.structs, name⟩)).isNone then
        [.complaint .structNotDeclared address declaration.position [name],
          .resultLost address]
      else []
  | _ => []

/-- What is found at a function: at its body, at its parameters and at its result. -/
def checkFindings (signature : Signature) (address : Address) (declaration : FunctionDecl) :
    List Finding :=
  declaration.body.findings signature [] [[]] (1 :: address) ++
    (VariableDecl.findingsOf signature.entries declaration.body.declares (0 :: address) 0
        declaration.parameters ++
      declaration.resultFindings signature.entries address)

/-- The visits of a function: those of its body, then those of its parameters. -/
def visits (signature : Signature) (address : Address) (declaration : FunctionDecl) :
    List Visit :=
  declaration.body.visits signature [] [[]] (1 :: address) ++
    VariableDecl.visitsOf signature declaration.body.declares [[]] (0 :: address) 0
      declaration.parameters

theorem checkFindings_eq
    {signature : Signature} (address : Address) (declaration : FunctionDecl) :
    declaration.checkFindings signature address =
      Visit.findingsOf (declaration.visits signature address) ++
        declaration.resultFindings signature.entries address := by
  rw [checkFindings, visits, Visit.findingsOf_append, Stmt.findings_visits,
    VariableDecl.findings_visitsOf, List.append_assoc]

end FunctionDecl

/-- A signature in which more functions lost their result. -/
def Signature.losing (signature : Signature) (lost : List Address) : Signature :=
  { signature with lost := lost ++ signature.lost }

theorem Signature.Inside.losing
    {signature : Signature} {chain : List ScopeId} {regions : List Region} {store : ScopeStore}
    (inside : signature.Inside chain regions store) (lost : List Address) :
    (signature.losing lost).Inside chain regions store :=
  ⟨⟨inside.fits.rooted, inside.fits.fields⟩, inside.mirrors, inside.top, inside.distinct,
    inside.apart⟩

theorem Signature.losing_losing
    (signature : Signature) (earlier later : List Address) :
    (signature.losing earlier).losing later = signature.losing (later ++ earlier) := by
  simp [losing, List.append_assoc]

namespace FunctionDecl

/-- The function, if its result is lost. -/
def lost (entries : List Entry) (address : Address) (declaration : FunctionDecl) :
    List Address :=
  (declaration.resultFindings entries address).filterMap Finding.lost?

/-- What is found at functions, numbered from an index on. -/
def checkFindingsOf (signature : Signature) (index : Nat) : List FunctionDecl → List Finding
  | [] => []
  | head :: tail =>
      head.checkFindings signature (Program.functionAddress index) ++
        checkFindingsOf
          (signature.losing (head.lost signature.entries (Program.functionAddress index)))
          (index + 1) tail

/-- The visits of functions, numbered from an index on. -/
def visitsOf (signature : Signature) (index : Nat) : List FunctionDecl → List Visit
  | [] => []
  | head :: tail =>
      head.visits signature (Program.functionAddress index) ++
        visitsOf
          (signature.losing (head.lost signature.entries (Program.functionAddress index)))
          (index + 1) tail

/-- The functions that lose their result, numbered from an index on, the last one first. -/
def lostOf (entries : List Entry) (index : Nat) : List FunctionDecl → List Address
  | [] => []
  | head :: tail =>
      lostOf entries (index + 1) tail ++ head.lost entries (Program.functionAddress index)

section Owners

variable {signature : Signature} {index : Nat} {functions : List FunctionDecl}

/-- What is found at functions is found at one of them. The functions before it may have lost their
results by then. -/
theorem mem_checkFindingsOf
    {finding : Finding} :
    finding ∈ checkFindingsOf signature index functions ↔
      ∃ (number : Nat) (declaration : FunctionDecl), functions[number]? = some declaration ∧
        finding ∈ declaration.checkFindings
          (signature.losing (lostOf signature.entries index (functions.take number)))
          (Program.functionAddress (index + number)) :=
  mem_threaded checkFindingsOf
    (fun current place head => head.checkFindings current (Program.functionAddress place))
    (fun current place head =>
      current.losing (head.lost current.entries (Program.functionAddress place)))
    (fun current place earlier => current.losing (lostOf current.entries place earlier))
    (fun _ _ => List.not_mem_nil) (fun _ _ _ _ => List.mem_append) (fun _ _ => rfl)
    (fun _ _ _ _ => (Signature.losing_losing ..).symm) signature

/-- A visit of functions is one of a certain function. The functions before it may have lost their
results by then. -/
theorem mem_visitsOf
    {visit : Visit} :
    visit ∈ visitsOf signature index functions ↔
      ∃ (number : Nat) (declaration : FunctionDecl), functions[number]? = some declaration ∧
        visit ∈ declaration.visits
          (signature.losing (lostOf signature.entries index (functions.take number)))
          (Program.functionAddress (index + number)) :=
  mem_threaded visitsOf
    (fun current place head => head.visits current (Program.functionAddress place))
    (fun current place head =>
      current.losing (head.lost current.entries (Program.functionAddress place)))
    (fun current place earlier => current.losing (lostOf current.entries place earlier))
    (fun _ _ => List.not_mem_nil) (fun _ _ _ _ => List.mem_append) (fun _ _ => rfl)
    (fun _ _ _ _ => (Signature.losing_losing ..).symm) signature

theorem mem_lostOf
    {entries : List Entry} {place : Address} :
    place ∈ lostOf entries index functions ↔
      ∃ (number : Nat) (declaration : FunctionDecl), functions[number]? = some declaration ∧
        place ∈ declaration.lost entries (Program.functionAddress (index + number)) := by
  refine mem_numbered (lost entries) (fun _ => List.not_mem_nil) fun number head tail => ?_
  rw [lostOf, List.mem_append, or_comm]
  rfl

end Owners

variable {signature : Signature} {state : CheckState} {scope : ScopeId}

theorem ends_checkResult
    {mayFail : Prop} (address : Address) (rooted : Rooted signature.entries state.scopes)
    (declaration : FunctionDecl) :
    Ends mayFail (declaration.checkResult address) state fun _ final =>
      final = state.notingAll (declaration.resultFindings signature.entries address) := by
  simp only [checkResult, resultFindings]
  cases declaration.result with
  | struct name =>
      refine Ends.afterGet ?_
      simp only [rooted.lookupRoot?_eq]
      by_cases isMissing : (signature.entries.find? (·.key = ⟨.structs, name⟩)).isNone
      · rw [if_pos isMissing, if_pos isMissing]
        exact Ends.change rfl
      · rw [if_neg isMissing, if_neg isMissing]
        exact Ends.pure rfl
  | _ => exact Ends.pure rfl

/-- The scope of a function holds what its body declares, and behind that its parameters. Around it
lies an empty scope, and around that the outermost one. -/
def Finished (store : ScopeStore) (scope : ScopeId) (declaration : FunctionDecl) : Prop :=
  ∃ between : ScopeId,
    store.scopes[scope]? =
        some ⟨Region.entries (declaration.body.declares ++ declaration.parameters),
          some between⟩ ∧
      store.scopes[between]? = some ⟨[], some 0⟩

/-- What is altered later are scopes that nothing encloses yet. -/
theorem Finished.of_altersOnly
    {altered : List ScopeId} {before after : ScopeStore} {declaration : FunctionDecl}
    (finished : Finished before scope declaration) (alters : AltersOnly altered before after)
    (areFree : ∀ other ∈ altered, before.enclosing? other = none) :
    Finished after scope declaration := by
  obtain ⟨between, isFound, isOuter⟩ := finished
  refine ⟨between, alters.found isFound fun touched => ?_,
    alters.found isOuter fun touched => ?_⟩
  · have isFree := areFree scope touched
    simp [enclosing?, isFound] at isFree
  · have isFree := areFree between touched
    simp [enclosing?, isOuter] at isFree

theorem ends_check
    {known : String} {outer : ScopeId} {result : Ty} {parameters : List VariableDecl}
    {address? : Option Address} (address : Address)
    (inside : signature.Inside [outer, 0] [[]] state.scopes)
    (isLost : state.withoutResult = signature.lost)
    (isEntry : signature.entry? ⟨.functions, known⟩ =
      some (.ofFunction known result parameters scope address?))
    (isEmpty : state.scopes.scopes[scope]? = some ⟨[], none⟩) (isNew : scope ∉ [outer, 0])
    (isApart : ∀ name, .ofStruct name scope ∉ signature.entries)
    (declaration : FunctionDecl) (isName : state.nameAt address declaration.name = known) :
    Ends (¬ declaration.body.Written) (declaration.check address) state
      (Leaves state (declaration.checkFindings signature address) fun store =>
        Visit.AllFit (declaration.visits signature address) ∧
          AltersOnly [scope] state.scopes store ∧ Finished store scope declaration) := by
  have insideBody : signature.Inside [scope, outer, 0] [[], []]
      (state.withScopes (state.scopes.push scope)).scopes :=
    inside.push isEmpty isNew isApart
  have isFound : state.scopes.lookupRoot? ⟨.functions, known⟩ =
      some (.ofFunction known result parameters scope address?) :=
    (inside.fits.rooted.lookupRoot?_eq _).trans isEntry
  refine Ends.afterGet ?_
  simp only [isName, isFound]
  refine ends_inScope ?_
  refine (declaration.body.ends_check (1 :: address) insideBody isLost).bind ?_
  rintro _ _ ⟨afterBody, rfl, fitBody, alters, insideStill⟩
  refine (Stmt.ends_declarations (0 :: address) 0 insideStill declaration.parameters).bind ?_
  rintro _ _ ⟨afterParameters, rfl, altersMore, insideStill⟩
  refine (ends_checkResult address insideStill.fits.rooted declaration).imp ?_
  rintro _ _ rfl
  refine ⟨afterParameters.pop, ?_, ?_, ((alters.trans altersMore).inScope).mono (by simp), ?_⟩
  · simp [checkFindings, CheckState.notingAll_append]
  · exact fitBody.append (VariableDecl.allFit_visitsOf declaration.parameters)
  · cases insideStill.mirrors with
    | within isFound mirrorsOuter =>
        cases mirrorsOuter with
        | within isOuter => exact ⟨outer, isFound, isOuter⟩

/-! ## All functions -/

theorem isNote_bodyFindings
    {address : Address} (declaration : FunctionDecl) :
    ∀ finding ∈ declaration.body.findings signature [] [[]] (1 :: address) ++
      VariableDecl.findingsOf signature.entries declaration.body.declares (0 :: address) 0
        declaration.parameters, finding.isNote :=
  List.forall_mem_append.mpr ⟨declaration.body.isNote_findings, Stmt.isNote_declarations _⟩

theorem renamings_checkFindings
    (address : Address) (declaration : FunctionDecl) :
    (declaration.checkFindings signature address).filterMap Finding.renaming? = [] := by
  rw [checkFindings, ← List.append_assoc, List.filterMap_append,
    Finding.filterMap_renaming?_of_notes (isNote_bodyFindings declaration), List.nil_append,
    resultFindings]
  cases declaration.result with
  | struct name =>
      simp only
      split <;> simp [Finding.complaint, List.filterMap_cons]
  | _ => rfl

theorem lost_checkFindings
    (address : Address) (declaration : FunctionDecl) :
    ((declaration.checkFindings signature address).filterMap Finding.lost?).reverse =
      declaration.lost signature.entries address := by
  rw [checkFindings, ← List.append_assoc, List.filterMap_append,
    Finding.filterMap_lost?_of_notes (isNote_bodyFindings declaration), List.nil_append, lost,
    resultFindings]
  cases declaration.result with
  | struct name =>
      simp only
      split <;> simp [Finding.complaint, List.filterMap_cons]
  | _ => rfl

theorem lost_checkFindingsOf
    (index : Nat) (functions : List FunctionDecl) :
    ((checkFindingsOf signature index functions).filterMap Finding.lost?).reverse =
      lostOf signature.entries index functions := by
  induction functions generalizing signature index with
  | nil => rfl
  | cons head tail inductionHypothesis =>
      rw [checkFindingsOf, List.filterMap_append, List.reverse_append, inductionHypothesis,
        lost_checkFindings]
      rfl

/-- A function waits for its body to be checked: it is declared, and its scope is empty. -/
structure Awaits (signature : Signature) (state : CheckState) (address : Address)
    (scope : ScopeId) (declaration : FunctionDecl) : Prop where
  entry : ∃ result parameters address?,
    signature.entry? ⟨.functions, state.nameAt address declaration.name⟩ =
      some (.ofFunction (state.nameAt address declaration.name) result parameters scope address?)
  empty : state.scopes.scopes[scope]? = some ⟨[], none⟩
  notRoot : scope ≠ 0
  apart : ∀ name, .ofStruct name scope ∉ signature.entries

/-- What happens to another function is of no concern to one that waits. -/
theorem Awaits.after
    {store : ScopeStore} {address other : Address} {scope otherScope : ScopeId}
    {declaration checked : FunctionDecl}
    (awaits : Awaits signature state other otherScope declaration)
    (alters : AltersOnly [scope] state.scopes store) (different : otherScope ≠ scope)
    (lost : List Address) :
    Awaits (signature.losing lost)
      ((state.notingAll (checked.checkFindings signature address)).withScopes store) other
      otherScope declaration := by
  have sameNames : ((state.notingAll (checked.checkFindings signature address)).withScopes
      store).names = state.names := by
    rw [CheckState.withScopes_names, CheckState.notingAll_names, renamings_checkFindings]
    rfl
  refine ⟨?_, alters.found awaits.empty (by simpa using different), awaits.notRoot,
    awaits.apart⟩
  rw [CheckState.nameAt, sameNames]
  exact awaits.entry

/-- Functions, numbered from an index on, wait for their checks in the outermost scope. Their scopes
are numbered from a base on. -/
structure Waiting (signature : Signature) (state : CheckState) (base index : Nat)
    (functions : List FunctionDecl) : Prop where
  inside : signature.Inside [0] [] state.scopes
  lost : state.withoutResult = signature.lost
  awaits : ∀ place declaration, functions[place]? = some declaration →
    Awaits signature state (Program.functionAddress (index + place)) (base + index + place)
      declaration

/-- The first of some functions that wait is checked, and the others wait on. -/
theorem ends_checkHead
    {base index : Nat} {head : FunctionDecl} {tail : List FunctionDecl}
    (waiting : Waiting signature state base index (head :: tail)) :
    Ends (¬ head.body.Written) (inNewScope (head.check (Program.functionAddress index))) state
      fun found final =>
        Leaves state (head.checkFindings signature (Program.functionAddress index))
          (fun store => Visit.AllFit (head.visits signature (Program.functionAddress index)) ∧
            AltersOnly [base + index] state.scopes store ∧
              Finished store (base + index) head) found final ∧
        Waiting (signature.losing (head.lost signature.entries (Program.functionAddress index)))
          final base (index + 1) tail := by
  have awaitsHead := waiting.awaits 0 head rfl
  obtain ⟨result, parameters, address?, isEntry⟩ := awaitsHead.entry
  have notFresh : base + index ≠ state.scopes.fresh :=
    Nat.ne_of_lt (Array.getElem?_eq_some_iff.mp awaitsHead.empty).1
  have notInChain : base + index ∉ [state.scopes.fresh, 0] := by
    rw [List.mem_cons, List.mem_singleton, not_or]
    exact ⟨notFresh, awaitsHead.notRoot⟩
  have insideNew : signature.Inside [state.scopes.fresh, 0] [[]] (state.withScopes
      ((state.scopes.create none).push state.scopes.fresh)).scopes :=
    waiting.inside.push_new
  have headEnds : Ends (¬ head.body.Written)
      (inNewScope (head.check (Program.functionAddress index))) state
      (Leaves state (head.checkFindings signature (Program.functionAddress index))
        fun store => Visit.AllFit (head.visits signature (Program.functionAddress index)) ∧
          AltersOnly [base + index] state.scopes store ∧ Finished store (base + index) head) := by
    refine ends_inNewScope ((ends_check (Program.functionAddress index) insideNew waiting.lost
      isEntry (found_push_new awaitsHead.empty) notInChain awaitsHead.apart head rfl).imp ?_)
    rintro _ _ ⟨store, rfl, allFit, alters, finished⟩
    exact ⟨store.pop, by simp, allFit, AltersOnly.inNewScope (alters.mono (by simp)), finished⟩
  refine headEnds.imp ?_
  rintro _ _ ⟨store, rfl, allFit, alters, finished⟩
  refine ⟨⟨store, rfl, allFit, alters, finished⟩, ?_, ?_, fun place declaration isThere => ?_⟩
  · refine Signature.Inside.losing (waiting.inside.of_altersOnly alters fun scope touched => ?_) _
    obtain rfl := List.mem_singleton.mp touched
    exact ⟨fun isRoot => awaitsHead.notRoot (List.mem_singleton.mp isRoot), awaitsHead.apart⟩
  · rw [CheckState.withScopes_withoutResult, CheckState.notingAll_withoutResult,
      lost_checkFindings, waiting.lost]
    rfl
  · have awaitsNext := waiting.awaits (place + 1) declaration isThere
    rw [← Nat.add_assoc, Nat.add_right_comm index, ← Nat.add_assoc,
      Nat.add_right_comm (base + index)] at awaitsNext
    refine awaitsNext.after alters (Nat.ne_of_gt ?_) _
    exact Nat.lt_of_lt_of_le (Nat.lt_succ_self _) (Nat.le_add_right _ _)

theorem ends_checkAll
    (base index : Nat) (functions : List FunctionDecl)
    (waiting : Waiting signature state base index functions) :
    Ends (¬ ∀ declaration ∈ functions, declaration.body.Written) (checkAll index functions)
      state
      (Leaves state (checkFindingsOf signature index functions) fun store =>
        Visit.AllFit (visitsOf signature index functions) ∧
          AltersOnly (List.range' (base + index) functions.length) state.scopes store ∧
            ∀ place declaration, functions[place]? = some declaration →
              Finished store (base + index + place) declaration) := by
  induction functions generalizing state signature index with
  | nil => exact Ends.pure ⟨state.scopes, rfl, List.forall_mem_nil _, AltersOnly.refl _, nofun⟩
  | cons head tail inductionHypothesis =>
      refine ((ends_checkHead waiting).orFail fun some fine =>
        some (fine head List.mem_cons_self)).bind ?_
      rintro _ _ ⟨⟨store, rfl, fitHead, alters, finished⟩, waitingTail⟩
      refine Ends.weaken (inductionHypothesis (index + 1) waitingTail)
        (fun some fine => some fun declaration inTail => fine declaration (.tail _ inTail)) ?_
      intro _ _ leaves
      refine Leaves.after leaves fun reached later => ?_
      obtain ⟨fitTail, altersMore, finishedTail⟩ := later
      refine ⟨fitHead.append fitTail, ?_, fun place declaration isThere => ?_⟩
      · rw [List.length_cons, List.range'_succ]
        refine (alters.mono ?_).trans (altersMore.mono fun _ touched _ => .tail _ touched)
        simp
      · cases place with
        | zero =>
            obtain rfl : head = declaration := by simpa using isThere
            refine finished.of_altersOnly altersMore fun other touched => ?_
            obtain ⟨later, isBelow, rfl⟩ := List.mem_range'.mp touched
            have isEmpty := (waitingTail.awaits later _ (List.getElem?_eq_getElem isBelow)).empty
            rw [CheckState.withScopes_scopes] at isEmpty
            simp [enclosing?, isEmpty]
        | succ place =>
            have isFinished := finishedTail place declaration isThere
            rw [← Nat.add_assoc, Nat.add_right_comm (base + index) 1 place] at isFinished
            exact isFinished

end FunctionDecl

end StructLang
