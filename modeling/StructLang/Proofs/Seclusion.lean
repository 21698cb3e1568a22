import StructLang.Proofs.Check.Hidden
import StructLang.Proofs.Enclosure

/-!
# Bodies are secluded

What stands in the body of a function is a matter of that function alone: a check of another program
that differs only there, and in the blocks of accessors, finds the same about all other nodes, in
the same order, and leaves the same in all scopes but that of the function.
-/

namespace StructLang

open Check ScopeStore

/-! ## What is outside of a function -/

/-- An address is not that of a function or of a node below it. -/
def Program.Outside (number : Nat) (address : Address) : Prop :=
  ¬ functionAddress number <:+ address

instance (number : Nat) (address : Address) : Decidable (Program.Outside number address) :=
  inferInstanceAs (Decidable (¬ _))

open Program (Outside functionAddress)

/-- Whether a report speaks of no node of a function. -/
def Report.isOutside (number : Nat) (report : Report) : Bool :=
  decide (∀ address ∈ report.address?, Outside number address)

/-- Whether a finding is about no node of a function. -/
def Finding.isOutside (number : Nat) (finding : Finding) : Bool :=
  decide (∀ address ∈ finding.about?, Outside number address)

/-- A state without the types and the reports of nodes of a function. -/
def CheckState.outside (number : Nat) (state : CheckState) : CheckState :=
  { state with
    types := state.types.filter fun (address, _) => Outside number address
    reports := state.reports.filter (Report.isOutside number) }

namespace CheckState

theorem noting_outside
    (number : Nat) (state : CheckState) (finding : Finding) :
    (state.noting finding).outside number =
      (state.outside number).notingAll ([finding].filter (Finding.isOutside number)) := by
  cases finding with
  | typed address type =>
      by_cases isOutside : Outside number address
      · simp [outside, noting, Finding.isOutside, Finding.about?, isOutside]
      · simp [outside, noting, Finding.isOutside, Finding.about?, isOutside]
  | reported report =>
      by_cases isOutside : Report.isOutside number report
      · have isOutsideToo : Finding.isOutside number (.reported report) := isOutside
        simp [outside, noting, isOutside, isOutsideToo]
      · have notOutsideToo : ¬ Finding.isOutside number (.reported report) := isOutside
        simp [outside, noting, isOutside, notOutsideToo]
  | _ => rfl

/-- Findings about nodes of a function leave no trace outside of it. -/
theorem notingAll_outside
    (number : Nat) (state : CheckState) (findings : List Finding) :
    (state.notingAll findings).outside number =
      (state.outside number).notingAll (findings.filter (Finding.isOutside number)) := by
  induction findings generalizing state with
  | nil => rfl
  | cons head tail inductionHypothesis =>
      have isSplit : (head :: tail).filter (Finding.isOutside number) =
          [head].filter (Finding.isOutside number) ++ tail.filter (Finding.isOutside number) := by
        rw [← List.filter_append, List.singleton_append]
      rw [notingAll_cons, inductionHypothesis, noting_outside, isSplit, notingAll_append]

theorem typeAt?_outside
    {number : Nat} {address : Address} (isOutside : Outside number address) (state : CheckState) :
    (state.outside number).typeAt? address = state.typeAt? address := by
  rw [typeAt?, typeAt?, outside]
  induction state.types with
  | nil => rfl
  | cons head tail inductionHypothesis =>
      obtain ⟨place, type⟩ := head
      by_cases isHere : address = place
      · subst isHere
        simp [isOutside]
      · have isOther : (address == place) = false := by simpa using isHere
        by_cases isOutsideToo : Outside number place
        · simpa [isOutsideToo, List.lookup_cons, isOther] using inductionHypothesis
        · simpa [isOutsideToo, List.lookup_cons, isOther] using inductionHypothesis

end CheckState

/-! ## What is found outside of a function -/

namespace FunctionDecl

/-- All that is found outside of a function at itself is that its result is lost. -/
theorem filter_checkFindings
    (signature : Signature) (number : Nat) (declaration : FunctionDecl) :
    (declaration.checkFindings signature (functionAddress number)).filter
        (Finding.isOutside number) =
      (declaration.resultFindings signature.entries (functionAddress number)).filter
        (Finding.isOutside number) := by
  have noVisit : (Visit.findingsOf (declaration.visits signature (functionAddress number))).filter
      (Finding.isOutside number) = [] := by
    rw [List.filter_eq_nil_iff]
    intro finding isFound
    obtain ⟨visit, isVisit, isOwn⟩ := List.mem_flatMap.mp isFound
    have isBelow := (declaration.apart_visits (functionAddress number)).below visit isVisit
    simp [Finding.isOutside, visit.about?_findings finding isOwn, Outside, isBelow]
  rw [checkFindings_eq, List.filter_append, noVisit, List.nil_append]

/-- Without the body of a function the same is found outside of it. -/
theorem filter_checkFindingsOf
    (signature : Signature) (index place : Nat) (functions : List FunctionDecl) :
    (checkFindingsOf signature index (functions.modify place withoutBody)).filter
        (Finding.isOutside (index + place)) =
      (checkFindingsOf signature index functions).filter (Finding.isOutside (index + place)) := by
  induction functions generalizing signature index place with
  | nil => rw [List.modify_nil]
  | cons head tail inductionHypothesis =>
      cases place with
      | zero =>
          rw [List.modify_zero_cons, checkFindingsOf, checkFindingsOf, List.filter_append,
            List.filter_append, Nat.add_zero, filter_checkFindings, filter_checkFindings]
          rfl
      | succ place =>
          have further : index + (place + 1) = index + 1 + place := by omega
          rw [List.modify_succ_cons, checkFindingsOf, checkFindingsOf, List.filter_append,
            List.filter_append, further, inductionHypothesis]

end FunctionDecl

namespace Program

theorem filter_bodyFindings
    (number : Nat) (program : Program) :
    (program.withoutBodies number).bodyFindings.filter (Finding.isOutside number) =
      program.bodyFindings.filter (Finding.isOutside number) := by
  have ofFunctions :=
    FunctionDecl.filter_checkFindingsOf program.signature 0 number program.functions
  rw [Nat.zero_add] at ofFunctions
  rw [bodyFindings, bodyFindings, signature_withoutBodies, mainSignature_withoutBodies,
    List.filter_append, List.filter_append, withoutBodies, ofFunctions]

/-! ## Where a check comes to the bodies -/

/-- A check completes. When it comes to the bodies it is in one state, and it ends in another. -/
structure Runs (program : Program) (opened final : CheckState) : Prop where
  opens : program.opening.run started = .ok () opened
  prepared : program.Prepared opened
  completes : program.checked = .ok () final
  found : final = (opened.notingAll program.bodyFindings).withScopes final.scopes
  scopes : ∃ store, final.scopes = store.pop ∧ program.Finished store ∧
    AltersOnly program.functionScopes opened.scopes store

theorem exists_runs
    {program : Program} (written : program.Written) :
    ∃ opened final, program.Runs opened final := by
  obtain ⟨_, opened, opens, prepared⟩ :=
    program.ends_opening.completes fun notWritten => notWritten written
  obtain ⟨_, last, closes, store, rfl, finished, alters⟩ :=
    (ends_checkBodies prepared).completes fun notWritten => notWritten written
  refine ⟨opened, (opened.notingAll program.bodyFindings).withScopes store.pop, opens, prepared, ?_,
    rfl, store, rfl, finished, alters⟩
  have isChecked : program.checked =
      (program.checkParts >>= fun _ => modifyScopes (·.pop)).run started := rfl
  have ranParts : program.checkParts.run started =
      .ok () ((opened.notingAll program.bodyFindings).withScopes store) := by
    rw [checkParts_eq, Course.run_bind_ok opens, closes]
  rw [isChecked, Course.run_bind_ok ranParts]
  rfl

/-- Two programs that are the same beside some bodies are in the same state when their checks come
to the bodies. -/
theorem SameBeside.opened_eq
    {number : Nat} {program other : Program} {opened openedToo final finalToo : CheckState}
    (same : program.SameBeside number other) (runs : program.Runs opened final)
    (runsToo : other.Runs openedToo finalToo) : opened = openedToo := by
  have sameOpening := same.view_eq opening fun program => program.opening_withoutBodies number
  have opens := runs.opens
  rw [sameOpening, runsToo.opens] at opens
  cases opens
  rfl

/-! ## What the scopes hold -/

end Program

/-- The address of the declaration that an entry knows. -/
def Entry.address? : Entry → Option Address
  | ofFunction _ _ _ _ address? => address?
  | _ => none

/-- There are only variables in a region. -/
theorem Region.scope?_of_mem_entries
    {region : Region} {entry : Entry} (isThere : entry ∈ region.entries) : entry.scope? = none := by
  obtain ⟨declaration, -, rfl⟩ := List.mem_map.mp isThere
  rfl

namespace Program

/-- The scopes that one comes to from the outermost one by way of entries, but not by way of the
entry of a function with some number. -/
inductive Reaches (number : Nat) (store : ScopeStore) (root : ScopeId) : ScopeId → Prop
  | root : Reaches number store root root
  | entry {entry : Entry} {scope inner : ScopeId} :
      Reaches number store root scope → entry ∈ store.entries scope →
      entry.scope? = some inner → entry.address? ≠ some (functionAddress number) →
      Reaches number store root inner

theorem Reaches.of_pop
    {number : Nat} {store : ScopeStore} {root scope : ScopeId}
    (reaches : Reaches number store.pop root scope) : Reaches number store root scope := by
  induction reaches with
  | root => exact .root
  | entry _ isEntry isInner isOther reaches => exact .entry reaches isEntry isInner isOther

/-- What a scope belongs to: the whole program, a struct, an accessor or a function, but not one
with some number. -/
inductive Belongs (number : Nat) (program : Program) (store : ScopeStore) : ScopeId → Prop
  | root : Belongs number program store 0
  | struct {index : Nat} : index < program.structs.length →
      Belongs number program store (index + 1)
  | accessor {index : Nat} {name : String} {result : Ty} {parameters : List VariableDecl}
      {own : ScopeId} {address? : Option Address} : index < program.structs.length →
      .ofFunction name result parameters own address? ∈ store.entries (index + 1) →
      Belongs number program store own
  | function {index : Nat} {declaration : FunctionDecl} : index ≠ number →
      program.functions[index]? = some declaration →
      Belongs number program store (program.structs.length + 1 + index)

variable {number : Nat} {program other : Program} {store otherStore : ScopeStore}

theorem Finished.entries_accessor
    (finished : program.Finished store) {index : Nat} (isThere : index < program.structs.length)
    {name : String} {result : Ty} {parameters : List VariableDecl} {own : ScopeId}
    {address? : Option Address}
    (isEntry : .ofFunction name result parameters own address? ∈ store.entries (index + 1)) :
    store.entries own = Region.entries parameters := by
  have isFound := (finished.entries_struct isThere).1 name result parameters own address? isEntry
  simp [ScopeStore.entries, isFound]

theorem Finished.entries_function
    (finished : program.Finished store) {index : Nat} {declaration : FunctionDecl}
    (isThere : program.functions[index]? = some declaration) :
    store.entries (program.structs.length + 1 + index) =
      Region.entries (declaration.body.declares ++ declaration.parameters) := by
  obtain ⟨between, isFound, -⟩ := finished.functions index declaration isThere
  simp [ScopeStore.entries, isFound]

/-- The entries of the outermost scope are of structs and functions. -/
theorem Belongs.of_root
    {entry : Entry} {inner : ScopeId} (isEntry : entry ∈ program.entries)
    (isInner : entry.scope? = some inner)
    (isOther : entry.address? ≠ some (functionAddress number)) :
    Belongs number program store inner := by
  cases entry with
  | ofVariable => cases isInner
  | ofStruct name scope =>
      cases isInner
      obtain ⟨isPositive, isBelow⟩ := scope_of_mem_entries isEntry
      obtain ⟨index, rfl⟩ := Nat.exists_eq_add_one.mpr isPositive
      exact .struct isBelow
  | ofFunction name result parameters scope address? =>
      cases isInner
      obtain ⟨index, declaration, isThere, rfl, rfl⟩ := exists_function_of_mem_entries isEntry
      have different : index ≠ number := by
        intro same
        subst same
        exact isOther rfl
      exact .function different isThere

/-- An entry with a scope of its own leads from scopes of declarations to those of declarations. -/
theorem Belongs.step
    (finished : program.Finished store) {scope inner : ScopeId}
    (belongs : Belongs number program store scope) {entry : Entry}
    (isEntry : entry ∈ store.entries scope) (isInner : entry.scope? = some inner) {avoided : Nat}
    (isOther : entry.address? ≠ some (functionAddress avoided)) :
    Belongs avoided program store inner := by
  cases belongs with
  | root =>
      rw [finished.entries_eq] at isEntry
      exact .of_root isEntry isInner isOther
  | struct isThere =>
      cases entry with
      | ofVariable => cases isInner
      | ofStruct name scope => exact absurd isEntry ((finished.entries_struct isThere).2 name scope)
      | ofFunction name result parameters scope address? =>
          cases isInner
          exact .accessor isThere isEntry
  | accessor isThere isAccessor =>
      rw [finished.entries_accessor isThere isAccessor] at isEntry
      rw [Region.scope?_of_mem_entries isEntry] at isInner
      cases isInner
  | function _ isThere =>
      rw [finished.entries_function isThere] at isEntry
      rw [Region.scope?_of_mem_entries isEntry] at isInner
      cases isInner

theorem exists_other_address
    (address? : Option Address) : ∃ avoided, address? ≠ some (functionAddress avoided) := by
  by_cases isFirst : address? = some (functionAddress 0)
  · have notSecond : address? ≠ some (functionAddress 1) := by
      rw [isFirst]
      decide
    exact ⟨1, notSecond⟩
  · exact ⟨0, isFirst⟩

theorem Belongs.of_reaches
    (finished : program.Finished store) {scope : ScopeId}
    (reaches : Reaches number store 0 scope) : Belongs number program store scope := by
  induction reaches with
  | root => exact .root
  | entry _ isEntry isInner isOther belongs => exact belongs.step finished isEntry isInner isOther

section

variable (same : program.SameBeside number other)

include same

theorem SameBeside.length_structs : program.structs.length = other.structs.length :=
  same.view_eq (fun program => program.structs.length) fun program => by
    rw [withoutBodies, List.length_map]

theorem SameBeside.length_functions : program.functions.length = other.functions.length :=
  same.view_eq (fun program => program.functions.length) fun program => by
    rw [withoutBodies, List.length_modify]

/-- Programs that are the same beside some bodies have the same functions but for one. -/
theorem SameBeside.function_eq
    {index : Nat} (different : index ≠ number) :
    program.functions[index]? = other.functions[index]? := by
  refine same.view_eq (fun program => program.functions[index]?) fun program => ?_
  rw [withoutBodies, List.getElem?_modify_ne _ _ different.symm]

/-- The scopes of structs are as they were before any body was checked. -/
theorem SameBeside.entries_struct
    {opened : CheckState} (prepared : program.Prepared opened)
    (alters : AltersOnly program.functionScopes opened.scopes store)
    (altersToo : AltersOnly other.functionScopes opened.scopes otherStore) {index : Nat}
    (isThere : index < program.structs.length) :
    store.entries (index + 1) = otherStore.entries (index + 1) := by
  have sameLength := same.length_structs
  obtain ⟨held, isFound, -⟩ := prepared.structs index _ (List.getElem?_eq_getElem isThere)
  have untouched : index + 1 ∉ program.functionScopes := by
    rw [functionScopes, List.mem_range'_1]
    omega
  have untouchedToo : index + 1 ∉ other.functionScopes := by
    rw [functionScopes, List.mem_range'_1]
    omega
  simp [ScopeStore.entries, alters.found isFound untouched, altersToo.found isFound untouchedToo]

/-- What the scopes of declarations hold does not depend on secluded bodies. -/
theorem Belongs.same_entries
    (finished : program.Finished store) (finishedToo : other.Finished otherStore)
    (sameStructs : ∀ index < program.structs.length,
      store.entries (index + 1) = otherStore.entries (index + 1))
    {scope : ScopeId} (belongs : Belongs number program store scope) :
    store.entries scope = otherStore.entries scope := by
  cases belongs with
  | root =>
      have sameEntries := same.view_eq Program.entries fun program =>
        program.entries_withoutBodies number
      rw [finished.entries_eq, finishedToo.entries_eq, sameEntries]
  | struct isThere => exact sameStructs _ isThere
  | accessor isThere isEntry =>
      have isEntryToo := isEntry
      rw [sameStructs _ isThere] at isEntryToo
      have isThereToo := same.length_structs ▸ isThere
      rw [finished.entries_accessor isThere isEntry,
        finishedToo.entries_accessor isThereToo isEntryToo]
  | function different isThere =>
      have isThereToo := (same.function_eq different).symm.trans isThere
      have entriesToo := finishedToo.entries_function isThereToo
      rw [← same.length_structs] at entriesToo
      rw [finished.entries_function isThere, entriesToo]

/-- How far the scopes of declarations are from the outermost one does not depend on bodies. -/
theorem Belongs.same_hops
    (finished : program.Finished store) (finishedToo : other.Finished otherStore)
    (sameStructs : ∀ index < program.structs.length,
      store.entries (index + 1) = otherStore.entries (index + 1))
    {avoided : Nat} {scope : ScopeId} (belongs : Belongs avoided program store scope) :
    store.hops scope = otherStore.hops scope := by
  cases belongs with
  | root => exact finished.leads_root.hops_eq.trans finishedToo.leads_root.hops_eq.symm
  | struct isThere =>
      have isThereToo := same.length_structs ▸ isThere
      have hops := (finished.leads_struct isThere).hops_eq
      exact hops.trans (finishedToo.leads_struct isThereToo).hops_eq.symm
  | accessor isThere isEntry =>
      have isEntryToo := isEntry
      rw [sameStructs _ isThere] at isEntryToo
      have isThereToo := same.length_structs ▸ isThere
      have hops := (finished.leads_accessor isThere isEntry).hops_eq
      exact hops.trans (finishedToo.leads_accessor isThereToo isEntryToo).hops_eq.symm
  | @function index _ _ isThere =>
      have isBelow : index < other.functions.length := by
        rw [← same.length_functions]
        exact (List.getElem?_eq_some_iff.mp isThere).1
      obtain ⟨between, leads⟩ := finished.leads_function isThere
      obtain ⟨betweenToo, leadsToo⟩ :=
        finishedToo.leads_function (List.getElem?_eq_getElem isBelow)
      rw [← same.length_structs] at leadsToo
      exact leads.hops_eq.trans leadsToo.hops_eq.symm

end

end Program

/-! ## Two checks -/

/-- Two states are the same outside of a function: what was reported there, in the same order, the
types of nodes, what became of declarations, and what the scopes hold. -/
structure CheckState.AgreesOutside (number : Nat) (state other : CheckState) : Prop where
  reports : state.reports.filter (Report.isOutside number) =
    other.reports.filter (Report.isOutside number)
  types : ∀ address, Outside number address → state.typeAt? address = other.typeAt? address
  names : state.names = other.names
  withoutResult : state.withoutResult = other.withoutResult
  containment : state.containment = other.containment
  root : state.root? = other.root?
  scopes : ∀ root, state.root? = some root →
    ∀ scope, Program.Reaches number state.scopes root scope →
      state.scopes.entries scope = other.scopes.entries scope ∧
        ∀ entry ∈ state.scopes.entries scope, ∀ inner, entry.scope? = some inner →
          state.scopes.hops inner = other.scopes.hops inner

namespace Program

variable {number : Nat} {program other : Program} {opened final otherFinal : CheckState}

/-- Outside of a function whose body is secluded, a check leaves what it leaves for any such body,
but for the scopes. -/
theorem Runs.outside_eq
    (runs : program.Runs opened final) (runsToo : other.Runs opened otherFinal)
    (same : program.SameBeside number other) :
    final.outside number = (otherFinal.outside number).withScopes final.scopes := by
  have sameFindings := same.view_eq
    (fun program => program.bodyFindings.filter (Finding.isOutside number))
    fun program => program.filter_bodyFindings number
  have outsideScopes (state : CheckState) (scopes : ScopeStore) :
      (state.withScopes scopes).outside number = (state.outside number).withScopes scopes := rfl
  have found := congrArg (CheckState.outside number) runs.found
  have foundToo := congrArg (CheckState.outside number) runsToo.found
  rw [outsideScopes, CheckState.notingAll_outside] at found foundToo
  rw [found, foundToo, sameFindings]
  rfl

/-- What does not look at the scopes sees no difference outside of such a function. -/
theorem Runs.view_eq
    (runs : program.Runs opened final) (runsToo : other.Runs opened otherFinal)
    (same : program.SameBeside number other) {alpha : Type} (view : CheckState → alpha)
    (blind : ∀ state scopes, view (CheckState.withScopes state scopes) = view state) :
    view (final.outside number) = view (otherFinal.outside number) := by
  rw [runs.outside_eq runsToo same, blind]

/-- Outside of such a function nodes have the types that they have for any such body. -/
theorem Runs.typeAt?_eq
    (runs : program.Runs opened final) (runsToo : other.Runs opened otherFinal)
    (same : program.SameBeside number other) {address : Address}
    (isOutside : Outside number address) : final.typeAt? address = otherFinal.typeAt? address := by
  have sameType := runs.view_eq runsToo same (CheckState.typeAt? · address) fun _ _ => rfl
  simp only [CheckState.typeAt?_outside isOutside] at sameType
  exact sameType

/-- The scopes that one comes to outside of such a function hold what they hold for any such body,
and what they lead to is as far from the outermost scope. -/
theorem Runs.scopes_eq
    (runs : program.Runs opened final) (runsToo : other.Runs opened otherFinal)
    (same : program.SameBeside number other) {scope : ScopeId}
    (reaches : Reaches number final.scopes 0 scope) :
    final.scopes.entries scope = otherFinal.scopes.entries scope ∧
      ∀ entry ∈ final.scopes.entries scope, ∀ inner, entry.scope? = some inner →
        final.scopes.hops inner = otherFinal.scopes.hops inner := by
  obtain ⟨store, isStore, finished, alters⟩ := runs.scopes
  obtain ⟨otherStore, isOtherStore, finishedToo, altersToo⟩ := runsToo.scopes
  rw [isStore] at reaches
  have belongs := Belongs.of_reaches finished reaches.of_pop
  have sameStructs (index : Nat) (isThere : index < program.structs.length) :
      store.entries (index + 1) = otherStore.entries (index + 1) :=
    same.entries_struct runs.prepared alters altersToo isThere
  rw [isStore, isOtherStore]
  constructor
  · exact belongs.same_entries same finished finishedToo sameStructs
  · intro entry isEntry inner isInner
    obtain ⟨avoided, isOther⟩ := exists_other_address entry.address?
    have belongsInner := belongs.step finished isEntry isInner isOther
    rw [hops_pop, hops_pop]
    exact belongsInner.same_hops same finished finishedToo sameStructs

theorem Runs.agreesOutside
    (runs : program.Runs opened final) (runsToo : other.Runs opened otherFinal)
    (same : program.SameBeside number other) : final.AgreesOutside number otherFinal where
  reports := runs.view_eq runsToo same CheckState.reports fun _ _ => rfl
  types _ isOutside := runs.typeAt?_eq runsToo same isOutside
  names := runs.view_eq runsToo same CheckState.names fun _ _ => rfl
  withoutResult := runs.view_eq runsToo same CheckState.withoutResult fun _ _ => rfl
  containment := runs.view_eq runsToo same CheckState.containment fun _ _ => rfl
  root := runs.view_eq runsToo same CheckState.root? fun _ _ => rfl
  scopes root isThere scope reaches := by
    have isRoot : final.root? = some 0 := (outcome_of_checked runs.completes).root?_eq
    obtain rfl : 0 = root := Option.some.inj (isRoot.symm.trans isThere)
    exact runs.scopes_eq runsToo same reaches

/-- Bodies are secluded: let two programs be the same beside the body of one function and the blocks
of accessors. Then the checks of both complete, and they agree on all that is outside of that
function. -/
theorem bodies_secluded
    (number : Nat) (program other : Program) (written : program.Written)
    (writtenToo : other.Written) (same : program.SameBeside number other) :
    ∃ state otherState, program.checked = .ok () state ∧ other.checked = .ok () otherState ∧
      state.AgreesOutside number otherState := by
  obtain ⟨opened, final, runs⟩ := exists_runs written
  obtain ⟨openedToo, otherFinal, runsToo⟩ := exists_runs writtenToo
  obtain rfl := same.opened_eq runs runsToo
  exact ⟨final, otherFinal, runs.completes, runsToo.completes, runs.agreesOutside runsToo same⟩

/-! ## A function with one body and with another -/

/-- A program with a struct that has an accessor and with two functions, the second of which calls
the first. The blocks of the accessor and the body of the first function are left open. -/
def secluding (block body : Stmt) : Program :=
  ⟨[⟨"S",
      [.declare [⟨"a", .int, ⟨1, 16⟩⟩] ⟨1, 12⟩,
        .accessor "b" .int [⟨"x", .int, ⟨1, 29⟩⟩] ⟨"b", .int, ⟨1, 23⟩⟩ block block ⟨1, 19⟩],
      ⟨1, 10⟩, ⟨1, 1⟩⟩],
    [⟨"f", .int, [], body, ⟨2, 1⟩⟩,
      ⟨"g", .int, [], .block [.giveBack (some (.call (.name "f" ⟨3, 25⟩) [] ⟨3, 26⟩)) ⟨3, 18⟩]
        ⟨3, 16⟩, ⟨3, 1⟩⟩],
    some ⟨.block [] ⟨4, 6⟩, ⟨4, 1⟩⟩, ⟨1, 1⟩⟩

/-- A body without statements. -/
def doingNothing : Stmt := .block [] ⟨2, 16⟩

/-- A body that declares a variable and gives back one that is not declared. -/
def misusing : Stmt :=
  .block [.declare [⟨"g", .int, ⟨2, 22⟩⟩] ⟨2, 18⟩, .giveBack (some (.name "c" ⟨2, 32⟩)) ⟨2, 25⟩]
    ⟨2, 16⟩

theorem written_misusing : misusing.Written :=
  ⟨List.forall_mem_singleton.mpr trivial, (by decide : '@' ∉ "c".toList), trivial⟩

theorem written_secluding
    {block body : Stmt} (written : body.Written) : (secluding block body).Written where
  structs declaration isThere := by
    obtain rfl := List.mem_singleton.mp isThere
    refine ⟨(by decide : '@' ∉ "S".toList), fun member isMember => ?_⟩
    rcases List.mem_pair.mp isMember with rfl | rfl
    · exact List.forall_mem_singleton.mpr trivial
    · exact ⟨(by decide : '@' ∉ "b".toList), trivial, List.forall_mem_singleton.mpr trivial, rfl,
        rfl⟩
  functions declaration isThere := by
    have plainCalled : '@' ∉ "f".toList := by decide
    rcases List.mem_pair.mp isThere with rfl | rfl
    · exact ⟨plainCalled, trivial, List.forall_mem_nil _, written⟩
    · exact ⟨(by decide : '@' ∉ "g".toList), trivial, List.forall_mem_nil _,
        ⟨plainCalled, trivial⟩, trivial⟩
  main := ⟨_, rfl, trivial⟩

theorem cycleFindings_secluding
    (block body : Stmt) : (secluding block body).cycleFindings = [] := by
  apply cycleFindings_eq_nil
  intro declaration isThere field isField name isPart
  obtain rfl := List.mem_singleton.mp isThere
  rcases List.mem_pair.mp isField with rfl | rfl
  · cases isPart
  · cases isPart

/-- Whatever is wrong in the body of the first function, the call in the second one has its type,
and nothing is reported there. -/
theorem bodies_secluded_misusing :
    (secluding doingNothing doingNothing).SameBeside 0 (secluding misusing misusing) ∧
      ∃ state, (secluding misusing misusing).checked = .ok () state ∧
        state.reports ≠ [] ∧ state.reports.filter (Report.isOutside 0) = [] ∧
        state.typeAt? [0, 0, 1, 1, 1] = some .int := by
  have writtenNothing : doingNothing.Written := trivial
  have same : (secluding doingNothing doingNothing).SameBeside 0 (secluding misusing misusing) :=
    rfl
  obtain ⟨state, otherState, isChecked, isCheckedToo, agrees⟩ :=
    bodies_secluded 0 _ _ (written_secluding writtenNothing) (written_secluding written_misusing)
      same
  have outcome := outcome_of_checked isChecked
  have outcomeToo := outcome_of_checked isCheckedToo
  have noReport : state.reports = [] := by
    rw [← List.reverse_eq_nil_iff, outcome.reports_eq, findings, cycleFindings_secluding]
    rfl
  have hasType : state.typeAt? [0, 0, 1, 1, 1] = some .int := by
    rw [CheckState.typeAt?, outcome.types_eq, findings, cycleFindings_secluding]
    rfl
  have hasReport : otherState.reports ≠ [] := by
    rw [← List.reverse_ne_nil_iff, outcomeToo.reports_eq, findings, cycleFindings_secluding]
    exact List.cons_ne_nil _ _
  refine ⟨same, otherState, isCheckedToo, hasReport, ?_, ?_⟩
  · rw [← agrees.reports, noReport]
    rfl
  · rw [← agrees.types _ (by decide), hasType]

end Program

end StructLang
