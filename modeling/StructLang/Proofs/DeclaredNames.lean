import StructLang.Proofs.Check.Duplicates
import StructLang.Proofs.FromSource

/-!
# The names under which declarations are known

A declaration keeps its name if it is the first of its name among the structs, among the functions
or among the accessors of its struct. All others get made-up names, whose numbers run through the
program. The outermost scope has one entry for each struct and each function, under these names.

- `Outcome.nameAt_eq_name_iff` : which declarations keep their names.
- `Outcome.nameAt_of_duplicate` : the names that the others get.
- `Outcome.nodup_known` : no two declarations of a kind are known under the same name.
- `declared_names` : all names, the reports about them, and what the outermost scope holds.
-/

namespace StructLang

open Check

/-! ## Which complaints there are -/

/-- The report that the name of a declaration is not its own. -/
def Called.report (kind : DiagnosticKind) (called : Called) : Report :=
  ⟨some called.address, ⟨kind, called.position.line, [called.name]⟩⟩

namespace Finding

/-- The reports of a kind among some findings. -/
def reportsOfKind (kind : DiagnosticKind) (findings : List Finding) : List Report :=
  (findings.filterMap report?).filter (·.diagnostic.kind = kind)

theorem reportsOfKind_append
    (kind : DiagnosticKind) (earlier later : List Finding) :
    reportsOfKind kind (earlier ++ later) =
      reportsOfKind kind earlier ++ reportsOfKind kind later := by
  simp [reportsOfKind]

theorem reportsOfKind_eq_nil
    {kind : DiagnosticKind} {kinds : List DiagnosticKind} {findings : List Finding}
    (complain : ∀ finding ∈ findings, finding.ComplainsIn kinds) (isOther : kind ∉ kinds) :
    reportsOfKind kind findings = [] := by
  refine List.filter_eq_nil_iff.mpr fun report isThere isKind => ?_
  obtain ⟨finding, isFound, isReport⟩ := List.mem_filterMap.mp isThere
  cases finding with
  | reported other =>
      obtain rfl := Option.some.inj isReport
      exact isOther (of_decide_eq_true isKind ▸ (complain _ isFound).1)
  | _ => cases isReport

end Finding

open Finding

theorem reportsOfKind_namingFindings
    (kind : DiagnosticKind) (naming : Naming) (called : Called) :
    reportsOfKind kind
        (namingFindings kind called.address called.position naming called.name) =
      (if called.name ∈ naming.taken then [called] else []).map (Called.report kind) := by
  rw [namingFindings]
  split <;> simp [reportsOfKind, complaint, Called.report]

theorem StructDecl.reportsOfKind_declareFindings
    (naming : Naming) (index : Nat) (structs : List StructDecl) :
    reportsOfKind .duplicateStruct (declareFindings naming index structs) =
      (naming.clashes ((structs.zipIdx index).map fun (declaration, place) =>
        declaration.called place)).map (Called.report .duplicateStruct) := by
  induction structs generalizing naming index with
  | nil => rfl
  | cons head tail inductionHypothesis =>
      have ofHead := reportsOfKind_namingFindings .duplicateStruct naming (head.called index)
      have notReported (name : String) (findings : List Finding) :
          reportsOfKind .duplicateStruct (.containing name :: findings) =
            reportsOfKind .duplicateStruct findings := rfl
      rw [declareFindings, reportsOfKind_append, notReported, inductionHypothesis,
        List.zipIdx_cons, List.map_cons, Naming.clashes, List.map_append]
      exact congrArg (· ++ _) ofHead

theorem FunctionDecl.reportsOfKind_declareFindings
    (structs : List String) (naming : Naming) (index : Nat) (functions : List FunctionDecl) :
    reportsOfKind .duplicateFunction (declareFindings structs naming index functions) =
      (naming.clashes ((functions.zipIdx index).map fun (declaration, place) =>
        declaration.called place)).map (Called.report .duplicateFunction) := by
  induction functions generalizing naming index with
  | nil => rfl
  | cons head tail inductionHypothesis =>
      have noConflict : reportsOfKind .duplicateFunction (if head.name ∈ structs then
          [complaint .functionStructConflict (Program.functionAddress index) head.position
            [head.name]] else []) = [] := by
        split <;> rfl
      have ofHead := reportsOfKind_namingFindings .duplicateFunction naming (head.called index)
      rw [declareFindings, reportsOfKind_append, reportsOfKind_append, noConflict, List.nil_append,
        inductionHypothesis, List.zipIdx_cons, List.map_cons, Naming.clashes, List.map_append]
      exact congrArg (· ++ _) ofHead

namespace Program

variable {program : Program} {state : CheckState}

theorem duplicates_sublist
    (program : Program) : program.duplicates.Sublist program.groups.flatten := by
  rw [duplicates]
  induction program.groups with
  | nil => exact List.Sublist.refl _
  | cons head tail inductionHypothesis =>
      rw [List.flatMap_cons, List.flatten_cons]
      exact (Called.repeatsBeside_sublist [] head).append inductionHypothesis

/-- No declaration is in two groups. -/
theorem mem_duplicates
    {group : List Called} {called : Called} (isGroup : group ∈ program.groups)
    (isThere : called ∈ group) : called ∈ program.duplicates ↔ called ∈ Called.repeats group := by
  have disjoint := (List.nodup_flatten.mp program.nodup_groups.of_map).2
  have isSymm : Std.Symm (List.Disjoint : List Called → List Called → Prop) :=
    ⟨fun _ _ => List.disjoint_symm⟩
  constructor
  · intro isDuplicate
    obtain ⟨other, isOther, repeated⟩ := List.mem_flatMap.mp isDuplicate
    have isThereToo := (Called.repeatsBeside_sublist [] other).subset repeated
    have same : other = group := by
      by_contra different
      exact disjoint.forall isOther isGroup different isThereToo isThere
    exact same ▸ repeated
  · exact fun repeated => List.mem_flatMap.mpr ⟨group, isGroup, repeated⟩

/-- The duplicates are the declarations of which an earlier one in their group has the name. -/
theorem mem_duplicates_iff
    {group : List Called} (isGroup : group ∈ program.groups) {place : Nat} {called : Called}
    (isThere : group[place]? = some called) :
    called ∈ program.duplicates ↔ called.name ∈ (group.take place).map Called.name := by
  have distinct : (group.map Called.address).Nodup :=
    program.nodup_groups.sublist ((List.sublist_flatten_of_mem isGroup).map _)
  rw [mem_duplicates isGroup (List.mem_of_getElem? isThere), Called.mem_repeats distinct isThere]

namespace Outcome

variable (outcome : program.Outcome state) (written : program.Written)

include outcome

theorem reportsOfKind_eq
    (kind : DiagnosticKind) :
    state.reports.reverse.filter (·.diagnostic.kind = kind) =
      reportsOfKind kind program.findings := by
  rw [outcome.reports_eq, reportsOfKind]

include written

theorem duplicateStructs_eq :
    state.reports.reverse.filter (·.diagnostic.kind = .duplicateStruct) =
      (Called.repeats program.structsCalled).map (Called.report .duplicateStruct) := by
  have ofFunctions : reportsOfKind .duplicateStruct (FunctionDecl.declareFindings
      program.structNaming.taken ⟨[], program.structNaming.made⟩ 0 program.functions) = [] :=
    reportsOfKind_eq_nil (fun finding isFound =>
      (FunctionDecl.declaresAt_declareFindings _ finding isFound).complainsIn (by decide))
      (by decide)
  rw [outcome.reportsOfKind_eq, findings, declareFindings]
  simp only [reportsOfKind_append, ofFunctions,
    reportsOfKind_eq_nil complainsIn_memberFindings (by decide : .duplicateStruct ∉ _),
    reportsOfKind_eq_nil complainsIn_cycleFindings (by decide : .duplicateStruct ∉ _),
    reportsOfKind_eq_nil complainsIn_bodyFindings (by decide : .duplicateStruct ∉ _),
    List.append_nil]
  rw [StructDecl.reportsOfKind_declareFindings, ← List.mapIdx_eq_zipIdx_map]
  exact congrArg _ (Naming.clashes_group (proper_structsCalled written))

theorem duplicateFunctions_eq :
    state.reports.reverse.filter (·.diagnostic.kind = .duplicateFunction) =
      (Called.repeats program.functionsCalled).map (Called.report .duplicateFunction) := by
  have ofStructs : reportsOfKind .duplicateFunction
      (StructDecl.declareFindings ⟨[], 0⟩ 0 program.structs) = [] :=
    reportsOfKind_eq_nil (fun finding isFound =>
      (StructDecl.declaresAt_declareFindings _ finding isFound).complainsIn (by decide))
      (by decide)
  rw [outcome.reportsOfKind_eq, findings, declareFindings]
  simp only [reportsOfKind_append, ofStructs,
    reportsOfKind_eq_nil complainsIn_memberFindings (by decide : .duplicateFunction ∉ _),
    reportsOfKind_eq_nil complainsIn_cycleFindings (by decide : .duplicateFunction ∉ _),
    reportsOfKind_eq_nil complainsIn_bodyFindings (by decide : .duplicateFunction ∉ _),
    List.append_nil, List.nil_append]
  rw [FunctionDecl.reportsOfKind_declareFindings, ← List.mapIdx_eq_zipIdx_map]
  exact congrArg _ (Naming.clashes_group (proper_functionsCalled written))

/-! ## The names that declarations get -/

theorem nodup_names : (state.names.map Prod.fst).Nodup := by
  have areAddresses : state.names.reverse.map Prod.fst = program.duplicates.map Called.address := by
    rw [outcome.names_reverse written, Called.map_fst_madeUpAfter]
  rw [← List.nodup_reverse, ← List.map_reverse, areAddresses]
  exact program.nodup_groups.sublist (program.duplicates_sublist.map _)

/-- A declaration that is not the first of its name gets a name with its number among all those. -/
theorem nameAt_of_duplicate
    {place : Nat} {called : Called} (isThere : program.duplicates[place]? = some called) :
    state.nameAt called.address called.name = called.madeUp (place + 1) := by
  have isMade : (called.address, called.madeUp (place + 1)) ∈ state.names := by
    obtain ⟨isBelow, rfl⟩ := List.getElem?_eq_some_iff.mp isThere
    rw [← List.mem_reverse, outcome.names_reverse written]
    exact List.mem_mapIdx.mpr ⟨place, isBelow, by rw [Nat.zero_add]⟩
  rw [CheckState.nameAt, lookup_of_mem (outcome.nodup_names written) isMade]
  rfl

theorem nameAt_of_notMem
    {group : List Called} {called : Called} (isGroup : group ∈ program.groups)
    (isThere : called ∈ group) (notDuplicate : called ∉ program.duplicates) :
    state.nameAt called.address called.name = called.name := by
  have unlisted : state.names.lookup called.address = none := by
    refine List.lookup_eq_none_iff.mpr fun pair isPair => bne_iff_ne.mpr fun same => ?_
    rw [← List.mem_reverse, outcome.names_reverse written] at isPair
    obtain ⟨place, isBelow, rfl⟩ := List.mem_mapIdx.mp isPair
    have isDuplicate := List.getElem_mem isBelow
    have isSame : called = program.duplicates[place] :=
      List.inj_on_of_nodup_map program.nodup_groups (List.mem_flatten_of_mem isGroup isThere)
        (program.duplicates_sublist.subset isDuplicate) same
    exact notDuplicate (isSame ▸ isDuplicate)
  rw [CheckState.nameAt, unlisted]
  rfl

/-- Just the first declarations of all names in their groups keep those. -/
theorem nameAt_eq_name_iff
    {group : List Called} (isGroup : group ∈ program.groups) {place : Nat} {called : Called}
    (isThere : group[place]? = some called) :
    state.nameAt called.address called.name = called.name ↔
      called.name ∉ (group.take place).map Called.name := by
  have isMember := List.mem_of_getElem? isThere
  have proper := proper_groups written group isGroup called isMember
  rw [← mem_duplicates_iff isGroup isThere]
  constructor
  · intro isName isDuplicate
    obtain ⟨number, isPlace⟩ := List.getElem?_of_mem isDuplicate
    have isMade := outcome.nameAt_of_duplicate written isPlace
    exact (proper.usesNumber (number + 1)).not_plain (isMade ▸ isName.symm ▸ proper.plain)
  · exact outcome.nameAt_of_notMem written isGroup isMember

/-- A declaration keeps its name, or it is a duplicate and has a name with its number. -/
theorem nameAt_cases
    {group : List Called} (isGroup : group ∈ program.groups) {place : Nat} {called : Called}
    (isThere : group[place]? = some called) :
    (state.nameAt called.address called.name = called.name ∧
        called.name ∉ (group.take place).map Called.name) ∨
      ∃ number, program.duplicates[number]? = some called ∧
        UsesNumber (state.nameAt called.address called.name) (number + 1) := by
  by_cases isEarlier : called.name ∈ (group.take place).map Called.name
  · obtain ⟨number, isPlace⟩ :=
      List.getElem?_of_mem ((mem_duplicates_iff isGroup isThere).mpr isEarlier)
    refine Or.inr ⟨number, isPlace, ?_⟩
    rw [outcome.nameAt_of_duplicate written isPlace]
    exact (proper_groups written group isGroup called (List.mem_of_getElem? isThere)).usesNumber _
  · exact Or.inl ⟨(outcome.nameAt_eq_name_iff written isGroup isThere).mpr isEarlier, isEarlier⟩

/-- No two declarations of a group are known under the same name. -/
theorem nodup_known
    {group : List Called} (isGroup : group ∈ program.groups) :
    (group.map fun called => state.nameAt called.address called.name).Nodup := by
  refine List.pairwise_iff_getElem.mpr fun first second isBelow isBelowToo before => ?_
  rw [List.length_map] at isBelow isBelowToo
  rw [List.getElem_map, List.getElem_map]
  have isFirst := List.getElem?_eq_getElem isBelow
  have isSecond := List.getElem?_eq_getElem isBelowToo
  have proper (place : Nat) (isThere : place < group.length) : group[place].Proper :=
    proper_groups written group isGroup _ (List.getElem_mem isThere)
  intro same
  rcases outcome.nameAt_cases written isGroup isFirst with ⟨isName, -⟩ | ⟨number, isPlace, uses⟩ <;>
  rcases outcome.nameAt_cases written isGroup isSecond with
    ⟨isNameToo, isNew⟩ | ⟨numberToo, isPlaceToo, usesToo⟩
  · rw [isName, isNameToo] at same
    refine isNew (same ▸ List.mem_map_of_mem (List.mem_take_iff_getElem.mpr ⟨first, ?_, rfl⟩))
    omega
  · rw [← same, isName] at usesToo
    exact usesToo.not_plain (proper first isBelow).plain
  · rw [same, isNameToo] at uses
    exact uses.not_plain (proper second isBelowToo).plain
  · rw [same] at uses
    obtain rfl := Nat.succ.inj (uses.number_eq usesToo)
    have isSame := Option.some.inj (isPlace.symm.trans isPlaceToo)
    have distinct : group.Nodup :=
      (program.nodup_groups.of_map).sublist (List.sublist_flatten_of_mem isGroup)
    exact Nat.ne_of_lt before (distinct.getElem_inj_iff.mp isSame)

/-! ## What the outermost scope holds -/

omit written in
theorem taken_structNaming :
    program.structNaming.taken = program.structs.mapIdx fun index declaration =>
      state.nameAt (structAddress index) declaration.name := by
  refine List.ext_getElem (by simp [length_structNaming]) fun index _ isBelow => ?_
  rw [List.length_mapIdx] at isBelow
  have known := outcome.nameAt_structAddress (List.getElem?_eq_getElem isBelow)
  rw [List.getElem_mapIdx]
  exact Option.some.inj ((List.getElem?_eq_getElem _).symm.trans known)

omit written in
theorem taken_functionNaming :
    program.functionNaming.taken = program.functions.mapIdx fun index declaration =>
      state.nameAt (functionAddress index) declaration.name := by
  refine List.ext_getElem (by simp [length_functionNaming]) fun index _ isBelow => ?_
  rw [List.length_mapIdx] at isBelow
  have known := outcome.nameAt_functionAddress (List.getElem?_eq_getElem isBelow)
  rw [List.getElem_mapIdx]
  exact Option.some.inj ((List.getElem?_eq_getElem _).symm.trans known)

omit written in
/-- The entries of the outermost scope, by the names in the tables. -/
theorem entries_eq :
    program.entries =
      (program.structs.mapIdx fun index declaration =>
        .ofStruct (state.nameAt (structAddress index) declaration.name) (index + 1)) ++
      program.functions.mapIdx fun index declaration =>
        .ofFunction (state.nameAt (functionAddress index) declaration.name) declaration.result
          declaration.parameters (program.structs.length + 1 + index)
          (some (functionAddress index)) := by
  have areStructs : structEntries program.structNaming.taken =
      program.structs.mapIdx fun index declaration =>
        .ofStruct (state.nameAt (structAddress index) declaration.name) (index + 1) := by
    rw [structEntries, outcome.taken_structNaming, List.mapIdx_mapIdx]
    rfl
  have areFunctions : functionEntries program.structs.length program.functionNaming.taken
      program.functions = program.functions.mapIdx fun index declaration =>
        .ofFunction (state.nameAt (functionAddress index) declaration.name) declaration.result
          declaration.parameters (program.structs.length + 1 + index)
          (some (functionAddress index)) := by
    refine List.ext_getElem (by simp [functionEntries, length_functionNaming]) fun index _ _ => ?_
    simp [functionEntries, outcome.taken_functionNaming, Nat.add_right_comm]
  rw [entries, rootEntries, length_structNaming, areStructs, areFunctions]

end Outcome

/-- What the scopes of structs and functions are after a check. The outermost scope has one entry
for each struct, one for each function, in order, and no others; each is found under its key. The
scope of an entry holds what its own declaration declares: the fields and accessors of a struct, the
variables of the body of a function and its parameters. -/
structure Installs (program : Program) (state : CheckState) : Prop where
  root : state.root? = some 0
  entries : state.scopes.entries 0 =
    (program.structs.mapIdx fun index declaration =>
      .ofStruct (state.nameAt (structAddress index) declaration.name) (index + 1)) ++
    program.functions.mapIdx fun index declaration =>
      .ofFunction (state.nameAt (functionAddress index) declaration.name) declaration.result
        declaration.parameters (program.structs.length + 1 + index) (some (functionAddress index))
  found : ∀ entry ∈ state.scopes.entries 0, state.scopes.find? 0 entry.key = some entry
  structs : ∀ index declaration, program.structs[index]? = some declaration →
    (state.scopes.entries (index + 1)).filter (·.key.kind = .vars) = declaration.fields.entries ∧
    ((state.scopes.entries (index + 1)).filter (·.key.kind = .functions)).map Entry.key =
      declaration.accessors.map fun accessor =>
        ⟨.functions, state.nameAt (accessor.number :: 0 :: structAddress index) accessor.name⟩
  functions : ∀ index declaration, program.functions[index]? = some declaration →
    state.scopes.entries (program.structs.length + 1 + index) =
      Region.entries (declaration.body.declares ++ declaration.parameters)

theorem Outcome.entries_function
    (outcome : program.Outcome state) {index : Nat} {declaration : FunctionDecl}
    (isThere : program.functions[index]? = some declaration) :
    state.scopes.entries (program.structs.length + 1 + index) =
      Region.entries (declaration.body.declares ++ declaration.parameters) := by
  obtain ⟨store, isStore, finished⟩ := outcome.finished
  obtain ⟨between, isFound, -⟩ := finished.functions index declaration isThere
  rw [isStore]
  change store.entries _ = _
  simp [ScopeStore.entries, isFound]

theorem Outcome.installs
    (outcome : program.Outcome state) : program.Installs state := by
  obtain ⟨store, isStore, finished⟩ := outcome.finished
  have isRoot : store.scopes[0]? = some ⟨program.entries, none⟩ := finished.inside.fits.rooted.found
  have areEntries : state.scopes.entries 0 = program.entries := by
    rw [isStore]
    change store.entries 0 = _
    simp [ScopeStore.entries, isRoot]
  refine ⟨outcome.root?_eq, areEntries.trans outcome.entries_eq, fun entry isThere => ?_,
    fun index declaration isThere => ?_, fun index declaration => outcome.entries_function⟩
  · rw [areEntries] at isThere
    rw [isStore]
    change store.find? 0 entry.key = some entry
    rw [ScopeStore.find?_eq _ isRoot]
    exact find?_key_of_mem
      (nodup_keys_entries finished.structsDistinct finished.functionsDistinct) isThere
  · obtain ⟨next, areFields, areAccessors, -⟩ := outcome.members_eq isThere
    refine ⟨areFields, ?_⟩
    rw [areAccessors]
    refine List.ext_getElem (by simp) fun place _ _ => ?_
    simp [Entry.key]

/-- The check of a program from a source text completes. A struct, a function or an accessor keeps
its name exactly if no earlier struct, function or accessor of the same struct has it. The others
are known under names made up with the numbers one, two, three and so on, first those of structs,
then those of functions, then those of the accessors of one struct after the other, and no other
name is made up. Each struct and each function that is not the first of its name is reported once,
and no other one is. -/
theorem declared_names
    {source : String} (isRead : Program.ofSource source = .ok program) :
    ∃ state, program.checked = .ok () state ∧
      (∀ group ∈ program.groups, ∀ (place : Nat) (called : Called), group[place]? = some called →
        (state.nameAt called.address called.name = called.name ↔
          called.name ∉ (group.take place).map Called.name) ∧
        (called ∈ program.duplicates ↔ called.name ∈ (group.take place).map Called.name)) ∧
      (∀ (place : Nat) (called : Called), program.duplicates[place]? = some called →
        state.nameAt called.address called.name = called.madeUp (place + 1)) ∧
      state.names.reverse = program.duplicates.mapIdx
        (fun place called => (called.address, called.madeUp (place + 1))) ∧
      state.reports.reverse.filter (·.diagnostic.kind = .duplicateStruct) =
        (Called.repeats program.structsCalled).map (Called.report .duplicateStruct) ∧
      state.reports.reverse.filter (·.diagnostic.kind = .duplicateFunction) =
        (Called.repeats program.functionsCalled).map (Called.report .duplicateFunction) ∧
      program.Installs state := by
  have written := written_of_ofSource isRead
  obtain ⟨state, isChecked⟩ := checked_of_written written
  have outcome := outcome_of_checked isChecked
  refine ⟨state, isChecked, fun group isGroup place called isThere => ?_, fun place called => ?_,
    ?_, ?_, ?_, outcome.installs⟩
  · exact ⟨outcome.nameAt_eq_name_iff written isGroup isThere, mem_duplicates_iff isGroup isThere⟩
  · exact outcome.nameAt_of_duplicate written
  · rw [outcome.names_reverse written, Called.madeUpAfter]
    simp only [Nat.zero_add]
  · exact outcome.duplicateStructs_eq written
  · exact outcome.duplicateFunctions_eq written

/-! ### Names that two structs, two functions and two accessors share -/

/-- Two structs of one name, of which the first has two accessors of one name, and two functions of
one name. The parameters of the first accessor share a name, too, and so do the variables of the
main body. -/
def sharedNamesSource : String :=
  "struct S\x7bint x(int a,bool a)\x7bset\x7b\x7dget\x7b\x7d\x7d" ++
    "bool x()\x7bset\x7b\x7dget\x7b\x7d\x7d\x7d" ++
    "struct S\x7b\x7dfunc f(int a)int\x7b\x7dfunc f()int\x7bbool a;\x7dmain\x7bint f;int f;\x7d"

/-- The tokens of this text. -/
def sharedNamesTokens : List Token :=
  [⟨.structWord, "struct", ⟨1, 1⟩⟩, ⟨.identifier, "S", ⟨1, 8⟩⟩, ⟨.leftBrace, "\x7b", ⟨1, 9⟩⟩,
    ⟨.intWord, "int", ⟨1, 10⟩⟩, ⟨.identifier, "x", ⟨1, 14⟩⟩, ⟨.leftParen, "(", ⟨1, 15⟩⟩,
    ⟨.intWord, "int", ⟨1, 16⟩⟩, ⟨.identifier, "a", ⟨1, 20⟩⟩, ⟨.comma, ",", ⟨1, 21⟩⟩,
    ⟨.boolWord, "bool", ⟨1, 22⟩⟩, ⟨.identifier, "a", ⟨1, 27⟩⟩, ⟨.rightParen, ")", ⟨1, 28⟩⟩,
    ⟨.leftBrace, "\x7b", ⟨1, 29⟩⟩, ⟨.setWord, "set", ⟨1, 30⟩⟩, ⟨.leftBrace, "\x7b", ⟨1, 33⟩⟩,
    ⟨.rightBrace, "\x7d", ⟨1, 34⟩⟩, ⟨.getWord, "get", ⟨1, 35⟩⟩, ⟨.leftBrace, "\x7b", ⟨1, 38⟩⟩,
    ⟨.rightBrace, "\x7d", ⟨1, 39⟩⟩, ⟨.rightBrace, "\x7d", ⟨1, 40⟩⟩, ⟨.boolWord, "bool", ⟨1, 41⟩⟩,
    ⟨.identifier, "x", ⟨1, 46⟩⟩, ⟨.leftParen, "(", ⟨1, 47⟩⟩, ⟨.rightParen, ")", ⟨1, 48⟩⟩,
    ⟨.leftBrace, "\x7b", ⟨1, 49⟩⟩, ⟨.setWord, "set", ⟨1, 50⟩⟩, ⟨.leftBrace, "\x7b", ⟨1, 53⟩⟩,
    ⟨.rightBrace, "\x7d", ⟨1, 54⟩⟩, ⟨.getWord, "get", ⟨1, 55⟩⟩, ⟨.leftBrace, "\x7b", ⟨1, 58⟩⟩,
    ⟨.rightBrace, "\x7d", ⟨1, 59⟩⟩, ⟨.rightBrace, "\x7d", ⟨1, 60⟩⟩, ⟨.rightBrace, "\x7d", ⟨1, 61⟩⟩,
    ⟨.structWord, "struct", ⟨1, 62⟩⟩, ⟨.identifier, "S", ⟨1, 69⟩⟩, ⟨.leftBrace, "\x7b", ⟨1, 70⟩⟩,
    ⟨.rightBrace, "\x7d", ⟨1, 71⟩⟩, ⟨.funcWord, "func", ⟨1, 72⟩⟩, ⟨.identifier, "f", ⟨1, 77⟩⟩,
    ⟨.leftParen, "(", ⟨1, 78⟩⟩, ⟨.intWord, "int", ⟨1, 79⟩⟩, ⟨.identifier, "a", ⟨1, 83⟩⟩,
    ⟨.rightParen, ")", ⟨1, 84⟩⟩, ⟨.intWord, "int", ⟨1, 85⟩⟩, ⟨.leftBrace, "\x7b", ⟨1, 88⟩⟩,
    ⟨.rightBrace, "\x7d", ⟨1, 89⟩⟩, ⟨.funcWord, "func", ⟨1, 90⟩⟩, ⟨.identifier, "f", ⟨1, 95⟩⟩,
    ⟨.leftParen, "(", ⟨1, 96⟩⟩, ⟨.rightParen, ")", ⟨1, 97⟩⟩, ⟨.intWord, "int", ⟨1, 98⟩⟩,
    ⟨.leftBrace, "\x7b", ⟨1, 101⟩⟩, ⟨.boolWord, "bool", ⟨1, 102⟩⟩, ⟨.identifier, "a", ⟨1, 107⟩⟩,
    ⟨.semicolon, ";", ⟨1, 108⟩⟩, ⟨.rightBrace, "\x7d", ⟨1, 109⟩⟩, ⟨.mainWord, "main", ⟨1, 110⟩⟩,
    ⟨.leftBrace, "\x7b", ⟨1, 114⟩⟩, ⟨.intWord, "int", ⟨1, 115⟩⟩, ⟨.identifier, "f", ⟨1, 119⟩⟩,
    ⟨.semicolon, ";", ⟨1, 120⟩⟩, ⟨.intWord, "int", ⟨1, 121⟩⟩, ⟨.identifier, "f", ⟨1, 125⟩⟩,
    ⟨.semicolon, ";", ⟨1, 126⟩⟩, ⟨.rightBrace, "\x7d", ⟨1, 127⟩⟩]

/-- The program that these tokens are. -/
def sharedNames : Program :=
  ⟨[⟨"S", [.accessor "x" .int [⟨"a", .int, ⟨1, 16⟩⟩, ⟨"a", .bool, ⟨1, 22⟩⟩] ⟨"x", .int, ⟨1, 14⟩⟩
        (.block [] ⟨1, 33⟩) (.block [] ⟨1, 38⟩) ⟨1, 10⟩,
      .accessor "x" .bool [] ⟨"x", .bool, ⟨1, 46⟩⟩ (.block [] ⟨1, 53⟩) (.block [] ⟨1, 58⟩)
        ⟨1, 41⟩], ⟨1, 9⟩, ⟨1, 1⟩⟩,
      ⟨"S", [], ⟨1, 70⟩, ⟨1, 62⟩⟩],
    [⟨"f", .int, [⟨"a", .int, ⟨1, 79⟩⟩], .block [] ⟨1, 88⟩, ⟨1, 72⟩⟩,
      ⟨"f", .int, [], .block [.declare [⟨"a", .bool, ⟨1, 107⟩⟩] ⟨1, 102⟩] ⟨1, 101⟩, ⟨1, 90⟩⟩],
    some ⟨.block [.declare [⟨"f", .int, ⟨1, 119⟩⟩] ⟨1, 115⟩,
      .declare [⟨"f", .int, ⟨1, 125⟩⟩] ⟨1, 121⟩] ⟨1, 114⟩, ⟨1, 110⟩⟩, ⟨1, 1⟩⟩

theorem scan_sharedNames :
    scan sharedNamesSource = .ok (sharedNamesTokens ++ [⟨.finish, "", ⟨1, 128⟩⟩]) :=
  Scan.scan_of_scansTo (Scan.ofList_append_eq (Scan.ofList_append_eq rfl rfl) rfl)
    (by decide +kernel)

theorem derives_sharedNames : Grammar.DerivesProgram sharedNamesTokens sharedNames := by
  have parameters : Grammar.DerivesParameters (sharedNamesTokens.drop 5) _
      (sharedNamesTokens.drop 12) :=
    .some rfl (.more (.parameter (.int rfl) rfl) rfl (.last (.parameter (.bool rfl) rfl))) rfl
  have accessor : Grammar.DerivesMember (sharedNamesTokens.drop 3) _ (sharedNamesTokens.drop 20) :=
    .accessor (.int rfl) rfl parameters rfl
      (.setFirst rfl (.block rfl .none rfl) rfl (.block rfl .none rfl)) rfl
  have accessorToo : Grammar.DerivesMember (sharedNamesTokens.drop 20) _
      (sharedNamesTokens.drop 32) :=
    .accessor (.bool rfl) rfl (.none rfl rfl) rfl
      (.setFirst rfl (.block rfl .none rfl) rfl (.block rfl .none rfl)) rfl
  have struct : Grammar.DerivesStruct sharedNamesTokens _ (sharedNamesTokens.drop 33) :=
    .struct rfl rfl rfl (.more accessor (.more accessorToo .none)) rfl
  have structToo : Grammar.DerivesStruct (sharedNamesTokens.drop 33) _
      (sharedNamesTokens.drop 37) :=
    .struct rfl rfl rfl .none rfl
  have function : Grammar.DerivesFunction (sharedNamesTokens.drop 37) _
      (sharedNamesTokens.drop 46) :=
    .function rfl rfl (.some rfl (.last (.parameter (.int rfl) rfl)) rfl) (.int rfl)
      (.block rfl .none rfl)
  have declared : Grammar.DerivesVariables (sharedNamesTokens.drop 52) _
      (sharedNamesTokens.drop 55) :=
    .ofNames (.bool rfl) (.last ⟨rfl, rfl⟩) rfl
  have functionToo : Grammar.DerivesFunction (sharedNamesTokens.drop 46) _
      (sharedNamesTokens.drop 56) :=
    .function rfl rfl (.none rfl rfl) (.int rfl) (.block rfl (.more (.declare declared) .none) rfl)
  have first : Grammar.DerivesVariables (sharedNamesTokens.drop 58) _
      (sharedNamesTokens.drop 61) :=
    .ofNames (.int rfl) (.last ⟨rfl, rfl⟩) rfl
  have second : Grammar.DerivesVariables (sharedNamesTokens.drop 61) _
      (sharedNamesTokens.drop 64) :=
    .ofNames (.int rfl) (.last ⟨rfl, rfl⟩) rfl
  have main : Grammar.DerivesBlock (sharedNamesTokens.drop 57) _ (sharedNamesTokens.drop 65) :=
    .block rfl (.more (.declare first) (.more (.declare second) .none)) rfl
  exact .program (.struct struct (.struct structToo (.function function
    (.function functionToo .none)))) rfl main

theorem ofSource_sharedNames :
    Program.ofSource sharedNamesSource = .ok sharedNames :=
  ofSource_of_derives scan_sharedNames (by decide) rfl derives_sharedNames

/-- The second struct, the second function and the second accessor are known under made-up names
with the numbers one, two and three. -/
theorem declared_names_sharedNames :
    Program.ofSource sharedNamesSource = .ok sharedNames ∧
      ∃ state, sharedNames.checked = .ok () state ∧
        state.names.reverse = [([1, 0], "1@"), ([1, 1], "2@"), ([1, 0, 0, 0], "x@3")] ∧
        state.nameAt [1, 0, 0, 0] "x" = "x@3" ∧
        state.nameAt [0, 0] "S" = "S" ∧
        state.reports.reverse.filter (·.diagnostic.kind = .duplicateFunction) =
          [⟨some [1, 1], ⟨.duplicateFunction, 1, ["f"]⟩⟩] ∧
        (state.scopes.entries 0).length = 4 := by
  obtain ⟨state, isChecked, keeps, madeUp, areNames, -, areReports, installs⟩ :=
    declared_names ofSource_sharedNames
  refine ⟨ofSource_sharedNames, state, isChecked, areNames.trans (by decide), ?_, ?_,
    areReports.trans (by decide), ?_⟩
  · exact (madeUp 2 ((Accessor.called [0, 0, 0]) ⟨1, "x", .bool, [], ⟨1, 41⟩⟩) rfl).trans
      (by decide)
  · exact (keeps _ List.mem_cons_self 0 _ rfl).1.mpr List.not_mem_nil
  · rw [installs.entries]
    rfl

end Program

end StructLang
