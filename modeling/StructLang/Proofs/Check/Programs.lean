import StructLang.Proofs.Check.Places

/-!
# What the check of a program finds

All findings of a check are known from the program alone, and so is what its scopes hold in the
end. A program as it is written has a check that completes.
-/

namespace StructLang

open Check ScopeStore

/-! ## The main body -/

theorem Mirrors.atRoot
    {store : ScopeStore} {chain : List ScopeId} {regions : List Region}
    (mirrors : Mirrors store chain regions) : Mirrors store [0] [] := by
  induction mirrors with
  | root isFound noVariables => exact .root isFound noVariables
  | within _ _ inductionHypothesis => exact inductionHypothesis

/-- A new scope that the outermost one encloses is right inside of that, wherever it is entered. -/
theorem Signature.Inside.push_atRoot
    {signature : Signature} {chain : List ScopeId} {regions : List Region} {store : ScopeStore}
    (inside : signature.Inside chain regions store) :
    signature.Inside [store.fresh, 0] [[]] ((store.create (some 0)).push store.fresh) := by
  have alters : AltersOnly [] store (store.create (some 0)) := AltersOnly.create store (some 0)
  have created := inside.of_altersOnly alters nofun
  have isNew : (store.create (some 0)).scopes[store.fresh]? = some ⟨[], some 0⟩ := by
    rw [create_scopes, if_pos rfl]
  have isAttached : (store.create (some 0)).attach store.fresh = store.create (some 0) :=
    attach_eq_self _ (Or.inr (by simp [enclosing?, isNew]))
  have sameScopes : ((store.create (some 0)).push store.fresh).scopes =
      (store.create (some 0)).scopes := by
    rw [ScopeStore.push, isAttached]
  have notRoot : 0 ≠ store.fresh := Nat.ne_of_lt inside.fits.rooted.size_pos
  refine ⟨⟨created.fits.rooted.push notRoot, fun name scope isStruct => ?_⟩, .within ?_ ?_, rfl,
    ?_, ?_⟩
  · rw [sameScopes]
    exact created.fits.fields name scope isStruct
  · rw [sameScopes, isNew]
    rfl
  · exact created.mirrors.atRoot.of_same fun scope _ => by rw [sameScopes]
  · simpa using notRoot.symm
  · intro scope member name isStruct
    rcases List.mem_cons.mp member with rfl | isRoot
    · obtain ⟨found, isFound, _⟩ := inside.fits.fields name _ isStruct
      exact Nat.lt_irrefl _ (Array.getElem?_eq_some_iff.mp isFound).1
    · obtain rfl := List.mem_singleton.mp isRoot
      exact inside.apart 0 inside.mirrors.root_mem name isStruct

/-- What is found at the main body. -/
def MainDecl.checkFindings (signature : Signature) (declaration : MainDecl) : List Finding :=
  declaration.body.findings signature [] [] (0 :: Program.mainAddress)

/-- The visits of the main body. -/
def MainDecl.visits (signature : Signature) (declaration : MainDecl) : List Visit :=
  declaration.body.visits signature [] [] (0 :: Program.mainAddress)

theorem MainDecl.ends_check
    {signature : Signature} {state : CheckState}
    (inside : signature.Inside [0] [] state.scopes) (isRoot : state.root? = some 0)
    (isLost : state.withoutResult = signature.lost) (declaration : MainDecl) :
    Ends (¬ declaration.body.Written) declaration.check state
      (Leaves state (declaration.checkFindings signature) fun store =>
        Visit.AllFit (declaration.visits signature) ∧ AltersOnly [] state.scopes store) := by
  have rootStill : (state.withScopes
      ((state.scopes.create none).push state.scopes.fresh)).root? = some 0 := isRoot
  refine ends_inNewScope (Ends.afterGet (ends_newScope ?_))
  rw [rootStill]
  have insideMain : signature.Inside
      [((state.scopes.create none).push state.scopes.fresh).fresh, 0] [[]]
      (state.withScopes
        ((((state.scopes.create none).push state.scopes.fresh).create (some 0)).push
          ((state.scopes.create none).push state.scopes.fresh).fresh)).scopes :=
    inside.push_new.push_atRoot
  refine ends_inScope ((declaration.body.ends_check (0 :: Program.mainAddress) insideMain
    isLost).imp ?_)
  rintro _ _ ⟨store, rfl, allFit, alters, -⟩
  refine ⟨store.pop.pop, by simp [checkFindings], allFit, ?_⟩
  have altersInside : AltersOnly [] ((state.scopes.create none).push state.scopes.fresh)
      store.pop := AltersOnly.inNewScope (alters.mono fun _ touched _ => touched)
  exact AltersOnly.inNewScope (altersInside.mono nofun)

/-! ## What a program declares -/

namespace Program

/-- The names under which the structs are known. -/
def structNaming (program : Program) : Naming :=
  Naming.afterAll ⟨[], 0⟩ (program.structs.map (·.name))

/-- The names under which the functions are known. -/
def functionNaming (program : Program) : Naming :=
  Naming.afterAll ⟨[], program.structNaming.made⟩ (program.functions.map (·.name))

/-- The structs with the names under which they are known. -/
def namedStructs (program : Program) : List (String × StructDecl) :=
  program.structNaming.taken.zip program.structs

/-- How many names were made up before the accessors of the struct with an index got theirs. -/
def madeBefore (program : Program) (index : Nat) : Nat :=
  StructDecl.madeAfter program.functionNaming.made (program.structs.take index)

/-- The entries of the outermost scope. -/
def entries (program : Program) : List Entry :=
  rootEntries program.structNaming.taken program.functionNaming.taken program.functions

/-- What a program says to its bodies before any of them was checked. -/
def signature (program : Program) : Signature where
  entries := program.entries
  fields scope := (program.structs[scope - 1]?.map StructDecl.fields).getD []
  lost := []

/-- What a program says to its main body: functions may have lost their results. -/
def mainSignature (program : Program) : Signature :=
  program.signature.losing (FunctionDecl.lostOf program.entries 0 program.functions)

/-- The visits of the main body, if there is one. -/
def mainVisits (program : Program) : List Visit :=
  (program.main?.map (MainDecl.visits program.mainSignature)).getD []

/-- The visits of all bodies of a program. -/
def visits (program : Program) : List Visit :=
  FunctionDecl.visitsOf program.signature 0 program.functions ++ program.mainVisits

/-! ## What is found -/

/-- What is found when structs and functions are declared. -/
def declareFindings (program : Program) : List Finding :=
  StructDecl.declareFindings ⟨[], 0⟩ 0 program.structs ++
    FunctionDecl.declareFindings program.structNaming.taken ⟨[], program.structNaming.made⟩ 0
      program.functions

/-- What is found at the members of structs. -/
def memberFindings (program : Program) : List Finding :=
  StructDecl.checkFindingsOf program.entries program.functionNaming.made 0
    program.namedStructs

/-- The containment graph of a program. -/
def containment (program : Program) : Containment :=
  Finding.addAllTo (Finding.addAllTo .empty program.declareFindings) program.memberFindings

/-- What is found at structs that contain themselves. -/
def cycleFindings (program : Program) : List Finding :=
  StructLang.cycleFindings program.containment (StructDecl.places program.namedStructs)

/-- What is found at bodies. -/
def bodyFindings (program : Program) : List Finding :=
  FunctionDecl.checkFindingsOf program.signature 0 program.functions ++
    ((program.main?.map (MainDecl.checkFindings program.mainSignature)).getD [])

/-- All that is found. -/
def findings (program : Program) : List Finding :=
  program.declareFindings ++
    (program.memberFindings ++ (program.cycleFindings ++ program.bodyFindings))

variable {program : Program}

theorem length_structNaming
    (program : Program) :
    program.structNaming.taken.length = program.structs.length := by
  rw [structNaming, Naming.length_afterAll]
  simp

theorem length_functionNaming
    (program : Program) :
    program.functionNaming.taken.length = program.functions.length := by
  rw [functionNaming, Naming.length_afterAll]
  simp

theorem snd_namedStructs
    (program : Program) : program.namedStructs.map Prod.snd = program.structs :=
  List.map_snd_zip (Nat.le_of_eq program.length_structNaming.symm)

theorem fst_namedStructs
    (program : Program) :
    program.namedStructs.map Prod.fst = program.structNaming.taken :=
  List.map_fst_zip (Nat.le_of_eq program.length_structNaming)

/-! ## The names that are found -/

/-- The made-up names of structs and functions. -/
def madeUpNames (program : Program) : List (Address × String) :=
  (renamings functionAddress ⟨[], program.structNaming.made⟩ 0
      (program.functions.map (·.name))).reverse ++
    (renamings structAddress ⟨[], 0⟩ 0 (program.structs.map (·.name))).reverse

theorem renamings_declareFindings
    (program : Program) :
    (program.declareFindings.filterMap Finding.renaming?).reverse = program.madeUpNames := by
  rw [declareFindings, List.filterMap_append, List.reverse_append, StructDecl.renamings_eq,
    FunctionDecl.renamings_eq, madeUpNames]

theorem length_madeUpNames
    (program : Program) : program.madeUpNames.length = program.functionNaming.made := by
  have ofStructs := length_renamings structAddress ⟨[], 0⟩ 0 (program.structs.map (·.name))
  have ofFunctions := length_renamings functionAddress ⟨[], program.structNaming.made⟩ 0
    (program.functions.map (·.name))
  rw [Nat.zero_add] at ofStructs
  rw [madeUpNames, List.length_append, List.length_reverse, List.length_reverse, ofStructs,
    functionNaming, ← ofFunctions]
  exact Nat.add_comm _ _

/-- Made-up names of anything but structs and functions leave the names of those alone. -/
theorem nameAt_structAddress
    {state : CheckState} {later : List (Address × String)}
    (isNames : state.names = later ++ program.madeUpNames)
    (elsewhere : ∀ pair ∈ later, pair.1.length ≠ 2) {index : Nat} {declaration : StructDecl}
    (isThere : program.structs[index]? = some declaration) :
    program.structNaming.taken[index]? =
      some (state.nameAt (structAddress index) declaration.name) := by
  have isName : (program.structs.map (·.name))[index]? = some declaration.name := by
    rw [List.getElem?_map, isThere, Option.map_some]
  have known := lookup_renamings structAddress
    (fun left right same => (List.cons.inj same).1) ⟨[], 0⟩ 0 _ [] isName rfl
  rw [CheckState.nameAt, isNames, lookup_append_of_notMem, madeUpNames,
    lookup_append_of_notMem]
  · simpa [structNaming] using known
  · intro pair member same
    obtain ⟨number, -, isAddress⟩ := fst_mem_renamings (List.mem_reverse.mp member)
    simp [same, structAddress, functionAddress] at isAddress
  · intro pair member same
    exact elsewhere pair member (by rw [same, structAddress]; rfl)

theorem nameAt_functionAddress
    {state : CheckState} {later : List (Address × String)}
    (isNames : state.names = later ++ program.madeUpNames)
    (elsewhere : ∀ pair ∈ later, pair.1.length ≠ 2) {index : Nat} {declaration : FunctionDecl}
    (isThere : program.functions[index]? = some declaration) :
    program.functionNaming.taken[index]? =
      some (state.nameAt (functionAddress index) declaration.name) := by
  have isName : (program.functions.map (·.name))[index]? = some declaration.name := by
    rw [List.getElem?_map, isThere, Option.map_some]
  have noStruct : (renamings structAddress ⟨[], 0⟩ 0
      (program.structs.map (·.name))).reverse.lookup (functionAddress (0 + index)) = none := by
    rw [List.lookup_eq_none_iff]
    intro pair member
    obtain ⟨number, -, isAddress⟩ := fst_mem_renamings (List.mem_reverse.mp member)
    simp [isAddress, structAddress, functionAddress]
  have known := lookup_renamings functionAddress
    (fun left right same => (List.cons.inj same).1) ⟨[], program.structNaming.made⟩ 0 _ _ isName
    noStruct
  rw [CheckState.nameAt, isNames, lookup_append_of_notMem, madeUpNames]
  · simpa [functionNaming] using known
  · intro pair member same
    exact elsewhere pair member (by rw [same, functionAddress]; rfl)

/-! ## The check of a program finds just that -/

/-- The state in which the parts of a program are checked. -/
def started : CheckState :=
  { CheckState.initial with scopes := ⟨#[⟨[], none⟩], [0]⟩, root? := some 0 }

/-- Structs and functions are declared, and nothing else was done yet. -/
structure Introduced (program : Program) (state : CheckState) : Prop where
  found : state = (started.notingAll program.declareFindings).withScopes state.scopes
  declared : Declared program.entries state.scopes
  structsDistinct : program.structNaming.taken.Nodup
  functionsDistinct : program.functionNaming.taken.Nodup

theorem length_entries
    (program : Program) :
    program.entries.length = program.structs.length + program.functions.length := by
  rw [entries, rootEntries, List.length_append, length_structEntries,
    length_functionEntries _ program.length_functionNaming, length_structNaming]

theorem mem_entries_struct
    {name : String} {scope : ScopeId} :
    .ofStruct name scope ∈ program.entries ↔
      ∃ index, program.structNaming.taken[index]? = some name ∧ scope = index + 1 := by
  have noFunction : .ofStruct name scope ∉ functionEntries program.structNaming.taken.length
      program.functionNaming.taken program.functions := by
    simp [functionEntries, List.mem_mapIdx]
  rw [entries, rootEntries, List.mem_append, or_iff_left noFunction, mem_structEntries]

theorem mem_entries_function
    {index : Nat} {name : String} {declaration : FunctionDecl}
    (isName : program.functionNaming.taken[index]? = some name)
    (isThere : program.functions[index]? = some declaration) :
    .ofFunction name declaration.result declaration.parameters (program.structs.length + 1 + index)
      (some (functionAddress index)) ∈ program.entries := by
  have isPair : (program.functionNaming.taken.zip program.functions)[index]? =
      some (name, declaration) :=
    List.getElem?_zip_eq_some.mpr ⟨isName, isThere⟩
  obtain ⟨isBelow, isPairThere⟩ := List.getElem?_eq_some_iff.mp isPair
  refine List.mem_append_right _ (List.mem_mapIdx.mpr ⟨index, isBelow, ?_⟩)
  simp only [isPairThere, length_structNaming, Nat.add_right_comm]

/-- Every function entry is that of a declaration, whose scope comes after those of the structs. -/
theorem exists_function_of_mem_entries
    {name : String} {result : Ty} {parameters : List VariableDecl} {scope : ScopeId}
    {address? : Option Address}
    (isFunction : .ofFunction name result parameters scope address? ∈ program.entries) :
    ∃ index declaration, program.functions[index]? = some declaration ∧
      scope = program.structs.length + 1 + index ∧ address? = some (functionAddress index) := by
  have noStruct : .ofFunction name result parameters scope address? ∉
      structEntries program.structNaming.taken := by
    simp [structEntries, List.mem_mapIdx]
  rw [entries, rootEntries, List.mem_append, or_iff_right noStruct, functionEntries,
    List.mem_mapIdx] at isFunction
  obtain ⟨index, isBelow, isEntry⟩ := isFunction
  have isThere : index < program.functions.length := by
    rw [List.length_zip] at isBelow
    exact Nat.lt_of_lt_of_le isBelow (Nat.min_le_right _ _)
  simp only [Entry.ofFunction.injEq, length_structNaming] at isEntry
  obtain ⟨-, -, -, isScope, isAddress⟩ := isEntry
  refine ⟨index, _, List.getElem?_eq_getElem isThere, ?_, isAddress.symm⟩
  rw [← isScope, Nat.add_right_comm]

/-- The scopes of structs come right after the outermost one. -/
theorem scope_of_mem_entries
    {name : String} {scope : ScopeId} (isStruct : .ofStruct name scope ∈ program.entries) :
    0 < scope ∧ scope ≤ program.structs.length := by
  obtain ⟨index, isName, rfl⟩ := mem_entries_struct.mp isStruct
  have isThere := (List.getElem?_eq_some_iff.mp isName).1
  rw [length_structNaming] at isThere
  exact ⟨Nat.succ_pos _, isThere⟩

theorem nodup_keys_entries
    (structsDistinct : program.structNaming.taken.Nodup)
    (functionsDistinct : program.functionNaming.taken.Nodup) :
    (program.entries.map Entry.key).Nodup :=
  nodup_keys program.length_functionNaming structsDistinct functionsDistinct

/-- In the beginning no name was given and no scope made but the outermost one. -/
theorem declared_started : Declared (structEntries []) started.scopes where
  stack := rfl
  found := rfl
  size := rfl
  others _ isPositive isThere := absurd isPositive (Nat.not_lt_of_le isThere)

theorem mem_namedStructs
    {index : Nat} {pair : String × StructDecl}
    (isPair : program.namedStructs[index]? = some pair) :
    program.structNaming.taken[index]? = some pair.1 ∧
      program.structs[index]? = some pair.2 := by
  obtain ⟨isName, isStruct⟩ := List.getElem?_zip_eq_some.mp isPair
  exact ⟨isName, isStruct⟩

namespace Introduced

variable {state : CheckState}

theorem names_eq
    (introduced : Introduced program state) :
    state.names = program.madeUpNames := by
  rw [introduced.found, CheckState.withScopes_names, CheckState.notingAll_names,
    renamings_declareFindings]
  exact List.append_nil _

theorem renames_eq
    (introduced : Introduced program state) :
    state.renames = program.functionNaming.made := by
  rw [introduced.found, CheckState.withScopes_renames, CheckState.notingAll_renames,
    ← List.length_reverse, renamings_declareFindings, length_madeUpNames]
  exact Nat.zero_add _

theorem distinct
    (introduced : Introduced program state) : (program.entries.map Entry.key).Nodup :=
  nodup_keys_entries introduced.structsDistinct introduced.functionsDistinct

theorem awaits
    (introduced : Introduced program state) {index : Nat} {pair : String × StructDecl}
    (isPair : program.namedStructs[index]? = some pair) :
    StructDecl.Awaits program.entries state index pair.1 pair.2 := by
  obtain ⟨isName, isStruct⟩ := mem_namedStructs isPair
  have isThere := (List.getElem?_eq_some_iff.mp isStruct).1
  refine ⟨?_, ?_, ?_, fun number => ?_⟩
  · exact find?_key_of_mem introduced.distinct (mem_entries_struct.mpr ⟨index, isName, rfl⟩)
  · refine introduced.declared.others _ (Nat.succ_pos _) ?_
    rw [length_entries]
    omega
  · have isNames : state.names = [] ++ program.madeUpNames := introduced.names_eq
    have known := nameAt_structAddress isNames nofun isStruct
    rw [isName, Option.some.injEq] at known
    exact known.symm
  · rw [introduced.names_eq, madeUpNames, List.lookup_eq_none_iff]
    intro made member
    rcases List.mem_append.mp member with isFunction | isStruct
    all_goals
      obtain ⟨other, -, isAddress⟩ := fst_mem_renamings (List.mem_reverse.mp (by assumption))
      simp [isAddress, structAddress, functionAddress]

/-- Once the scopes of structs show their fields, the store is what bodies are checked in. -/
theorem inside
    {store : ScopeStore} (introduced : Introduced program state)
    (alters : AltersOnly (List.range' 1 program.namedStructs.length) state.scopes store)
    (shows : ∀ (place : Nat) pair, program.namedStructs[place]? = some pair →
      ∃ held, store.scopes[place + 1]? = some held ∧ held.Shows pair.2.fields) :
    program.signature.Inside [0] [] store := by
  have rooted : Rooted program.entries store :=
    introduced.declared.rooted.of_altersOnly alters (by simp [List.mem_range'_1])
  refine ⟨⟨rooted, fun name scope isStruct => ?_⟩, .root rooted.found fun entry member => ?_,
    ?_, by simp, fun scope isRoot name isStruct => ?_⟩
  · obtain ⟨index, isName, rfl⟩ := mem_entries_struct.mp isStruct
    have isThere := (List.getElem?_eq_some_iff.mp isName).1
    rw [length_structNaming] at isThere
    have isDeclared := List.getElem?_eq_getElem isThere
    have isPair : program.namedStructs[index]? = some (name, program.structs[index]) :=
      List.getElem?_zip_eq_some.mpr ⟨isName, isDeclared⟩
    obtain ⟨held, isHeld, showsFields⟩ := shows index _ isPair
    refine ⟨held, isHeld, ?_⟩
    simpa [signature, isDeclared] using showsFields
  · have isKey := List.mem_map_of_mem (f := Entry.key) member
    change _ ∈ (rootEntries _ _ _).map Entry.key at isKey
    rw [rootEntries, List.map_append, keys_structEntries,
      keys_functionEntries _ program.length_functionNaming] at isKey
    rcases List.mem_append.mp isKey with isStruct | isFunction
    · obtain ⟨name, -, isName⟩ := List.mem_map.mp isStruct
      simp [← isName]
    · obtain ⟨name, -, isName⟩ := List.mem_map.mp isFunction
      simp [← isName]
  · exact alters.top?.trans introduced.declared.top
  · obtain rfl := List.mem_singleton.mp isRoot
    exact absurd (scope_of_mem_entries isStruct).1 (Nat.lt_irrefl 0)

end Introduced

/-- A function waits for its check as long as only structs were looked at. -/
theorem awaits_function
    {state : CheckState} {store : ScopeStore} {later : List (Address × String)}
    (declared : Declared program.entries store) (distinct : (program.entries.map Entry.key).Nodup)
    (alters : AltersOnly (List.range' 1 program.namedStructs.length) store state.scopes)
    (isNames : state.names = later ++ program.madeUpNames)
    (elsewhere : ∀ pair ∈ later, pair.1.length ≠ 2) {index : Nat} {declaration : FunctionDecl}
    (isThere : program.functions[index]? = some declaration) :
    FunctionDecl.Awaits program.signature state (functionAddress index)
      (program.structs.length + 1 + index) declaration := by
  have isBelow := (List.getElem?_eq_some_iff.mp isThere).1
  have isAbove : program.structs.length < program.structs.length + 1 + index := by omega
  have isWithin : program.structs.length + 1 + index ≤
      program.structs.length + program.functions.length := by omega
  have isName := nameAt_functionAddress isNames elsewhere isThere
  have isOutside : program.structs.length + 1 + index ∉
      List.range' 1 program.namedStructs.length := by
    rw [List.mem_range'_1, ← List.length_map (f := Prod.snd), snd_namedStructs]
    omega
  have isEntry := mem_entries_function isName isThere
  refine ⟨⟨_, _, _, find?_key_of_mem distinct isEntry⟩, alters.found (declared.others _ ?_ ?_)
    isOutside, ?_, fun name isStruct => ?_⟩
  · exact Nat.zero_lt_of_lt isAbove
  · rw [length_entries]
    exact isWithin
  · exact Nat.ne_of_gt (Nat.zero_lt_of_lt isAbove)
  · exact Nat.not_lt_of_le (scope_of_mem_entries isStruct).2 isAbove

/-! ## The containment graph of a program -/

theorem arrow_containment
    (program : Program) (part whole : String) :
    program.containment.Arrow part whole ↔
      ∃ pair ∈ program.namedStructs, pair.1 = whole ∧
        ∃ field ∈ pair.2.fields, field.type = .struct part := by
  have noArrow : ¬ Containment.Arrow .empty part whole := List.not_mem_nil
  have notDeclared : .contained part whole ∉ program.declareFindings := by
    rw [declareFindings, List.mem_append, not_or]
    exact ⟨StructDecl.contained_notMem_declareFindings _,
      FunctionDecl.contained_notMem_declareFindings _⟩
  rw [containment, Finding.arrow_addAllTo, Finding.arrow_addAllTo, or_iff_right
    (not_or.mpr ⟨noArrow, notDeclared⟩), memberFindings,
    StructDecl.contained_mem_checkFindingsOf]

/-- No struct is on a cycle if no field has a struct as its type. -/
theorem cycleFindings_eq_nil
    (noParts : ∀ declaration ∈ program.structs,
      ∀ field ∈ declaration.fields, ∀ name, field.type ≠ .struct name) :
    program.cycleFindings = [] := by
  rw [cycleFindings, StructLang.cycleFindings, List.map_eq_nil_iff, List.filter_eq_nil_iff]
  intro place _ isCycle
  have onCycle := (Containment.isAncestor_iff place.1 place.1).mp isCycle
  obtain ⟨whole, arrow, -⟩ := Relation.TransGen.head'_iff.mp onCycle
  obtain ⟨pair, isPair, -, field, isField, isPart⟩ := (arrow_containment _ _ _).mp arrow
  have isThere : pair.2 ∈ program.structs := by
    rw [← snd_namedStructs]
    exact List.mem_map_of_mem isPair
  exact noParts pair.2 isThere field isField _ isPart

theorem nodup_nodes_containment
    (program : Program) : program.containment.nodes.Nodup := by
  have isEmpty : Containment.empty.nodes.Nodup := List.nodup_nil
  exact Finding.nodup_addAllTo (Finding.nodup_addAllTo isEmpty _) _

theorem isPrefix_nodes_containment
    (distinct : program.structNaming.taken.Nodup) :
    program.namedStructs.map Prod.fst <+: program.containment.nodes := by
  have isFirst := StructDecl.nodes_declareFindings .empty ⟨[], 0⟩ 0 program.structs rfl distinct
  refine List.IsPrefix.trans ?_ (Finding.isPrefix_addAllTo _ _)
  rw [declareFindings, Finding.addAllTo_append, fst_namedStructs]
  refine List.IsPrefix.trans ?_ (Finding.isPrefix_addAllTo _ _)
  rw [isFirst]
  exact List.prefix_rfl

/-! ## All parts of a program -/

theorem lost_declareFindings
    (program : Program) : program.declareFindings.filterMap Finding.lost? = [] := by
  rw [declareFindings, List.filterMap_append,
    Finding.filterMap_lost?_of_declaresAt (StructDecl.declaresAt_declareFindings _),
    Finding.filterMap_lost?_of_declaresAt (FunctionDecl.declaresAt_declareFindings _)]
  rfl

theorem lost_memberFindings
    (program : Program) : program.memberFindings.filterMap Finding.lost? = [] := by
  rw [memberFindings, Finding.filterMap_lost?_of_declaresAt
    (StructDecl.declaresAt_checkFindingsOf program.namedStructs)]

theorem Introduced.waiting
    {state : CheckState} (introduced : Introduced program state) :
    StructDecl.Waiting program.entries state 0 program.namedStructs := by
  refine ⟨introduced.declared.rooted, introduced.declared.stack, ?_, fun place pair isPair => ?_⟩
  · rw [introduced.found, CheckState.withScopes_currentStruct?,
      CheckState.notingAll_currentStruct?]
    rfl
  · rw [Nat.zero_add]
    exact introduced.awaits isPair

theorem ends_checkStructs
    {state : CheckState} (introduced : Introduced program state) :
    Ends (¬ program.Written) (StructDecl.checkAll 0 program.structs) state
      (Leaves state program.memberFindings fun store =>
        AltersOnly (List.range' 1 program.namedStructs.length) state.scopes store ∧
          program.signature.Inside [0] [] store ∧
            ∀ index declaration, program.structs[index]? = some declaration →
              StructDecl.Finished store (index + 1) (program.madeBefore index) declaration) := by
  rw [← snd_namedStructs]
  refine Ends.weaken (StructDecl.ends_checkAll 0 program.namedStructs introduced.waiting) ?_ ?_
  · intro some written
    refine some fun pair member => (written.structs pair.2 ?_).members
    rw [← snd_namedStructs]
    exact List.mem_map_of_mem member
  · rintro _ _ ⟨store, rfl, alters, finished⟩
    simp only [Nat.zero_add] at finished alters
    refine ⟨store, ?_, alters, introduced.inside alters fun place pair isPair => ?_,
      fun index declaration isThere => ?_⟩
    · rw [introduced.renames_eq, memberFindings]
    · exact (finished place pair isPair).shows
    · obtain ⟨pair, isPair, rfl⟩ : ∃ pair, program.namedStructs[index]? = some pair ∧
          pair.2 = declaration := by
        rw [List.getElem?_map, Option.map_eq_some_iff] at isThere
        exact isThere
      have isFinished := finished index pair isPair
      rw [introduced.renames_eq, List.map_take, snd_namedStructs] at isFinished
      exact isFinished

theorem ends_introduce
    {mayFail : Prop} {next : Check Unit} {holds : Unit → CheckState → Prop}
    (program : Program) (fails : ¬ program.Written → mayFail)
    (ends : ∀ state, Introduced program state → Ends mayFail next state holds) :
    Ends mayFail
      (do
        StructDecl.declareAll 0 program.structs
        FunctionDecl.declareAll 0 program.functions
        next)
      started holds := by
  refine ((StructDecl.ends_declareAll ⟨[], 0⟩ 0 program.structs declared_started rfl
    List.nodup_nil).orFail fun some => fails fun written => some ⟨Naming.fresh_empty 0,
      fun declaration member => (written.structs declaration member).name⟩).bind ?_
  rintro _ _ ⟨store, rfl, declaredStructs, structsDistinct⟩
  have structsDeclared : Declared (rootEntries program.structNaming.taken [] []) store := by
    simpa [rootEntries, functionEntries, structNaming] using declaredStructs
  refine ((FunctionDecl.ends_declareAll [] ⟨[], program.structNaming.made⟩ program.functions
    structsDeclared rfl ?_ List.nodup_nil).orFail fun some =>
      fails fun written => some ⟨Naming.fresh_empty _,
        fun declaration member => (written.functions declaration member).name⟩).bind ?_
  · rw [CheckState.withScopes_renames, CheckState.notingAll_renames, StructDecl.renamings_eq]
    exact length_renamings structAddress ⟨[], 0⟩ 0 (program.structs.map (·.name))
  rintro _ _ ⟨storeNext, rfl, declared, functionsDistinct⟩
  refine ends _ ⟨?_, declared, structsDistinct, functionsDistinct⟩
  rw [declareFindings, CheckState.notingAll_append, CheckState.notingAll_withScopes]
  rfl

/-- All was checked but the bodies. -/
structure Prepared (program : Program) (state : CheckState) : Prop where
  found : state = (started.notingAll (program.declareFindings ++
    (program.memberFindings ++ program.cycleFindings))).withScopes state.scopes
  inside : program.signature.Inside [0] [] state.scopes
  stack : state.scopes.stack = [0]
  awaits : ∀ index declaration, program.functions[index]? = some declaration →
    FunctionDecl.Awaits program.signature state (functionAddress index)
      (program.structs.length + 1 + index) declaration
  structs : ∀ index declaration, program.structs[index]? = some declaration →
    StructDecl.Finished state.scopes (index + 1) (program.madeBefore index) declaration
  structsDistinct : program.structNaming.taken.Nodup
  functionsDistinct : program.functionNaming.taken.Nodup

theorem Prepared.withoutResult_eq
    {state : CheckState} (prepared : Prepared program state) : state.withoutResult = [] := by
  rw [prepared.found, CheckState.withScopes_withoutResult, CheckState.notingAll_withoutResult]
  simp only [List.filterMap_append, lost_declareFindings, lost_memberFindings,
    Finding.filterMap_lost?_of_notes isNote_cycleFindings, cycleFindings, List.append_nil]
  rfl

theorem Prepared.waiting
    {state : CheckState} (prepared : Prepared program state) :
    FunctionDecl.Waiting program.signature state (program.structs.length + 1) 0
      program.functions := by
  refine ⟨prepared.inside, prepared.withoutResult_eq, fun place declaration isThere => ?_⟩
  rw [Nat.zero_add, Nat.add_zero]
  exact prepared.awaits place declaration isThere

theorem ends_prepare
    {mayFail : Prop} {state : CheckState} {next : Check Unit}
    {holds : Unit → CheckState → Prop} (introduced : Introduced program state)
    (fails : ¬ program.Written → mayFail)
    (ends : ∀ state, Prepared program state → Ends mayFail next state holds) :
    Ends mayFail
      (do
        StructDecl.checkAll 0 program.structs
        program.checkContainment
        next)
      state holds := by
  refine ((ends_checkStructs introduced).orFail fails).bind ?_
  rintro _ _ ⟨store, rfl, altersStructs, inside, finished⟩
  have isNames : ((state.notingAll program.memberFindings).withScopes store).names =
      (program.memberFindings.filterMap Finding.renaming?).reverse ++ program.madeUpNames := by
    rw [CheckState.withScopes_names, CheckState.notingAll_names, introduced.names_eq]
  have elsewhere : ∀ pair ∈ (program.memberFindings.filterMap Finding.renaming?).reverse,
      pair.1.length ≠ 2 := by
    intro pair member same
    have isDeep := StructDecl.length_of_mem_renamings (List.mem_reverse.mp member)
    omega
  have isGraph : ((state.notingAll program.memberFindings).withScopes store).containment =
      program.containment := by
    have isEarlier : state.containment =
        Finding.addAllTo .empty program.declareFindings := by
      rw [introduced.found]
      exact CheckState.notingAll_containment _ _
    rw [containment, ← isEarlier]
    exact CheckState.notingAll_containment _ _
  refine (ends_checkContainment program.namedStructs program.snd_namedStructs
    (fun index pair isPair => ?_) ?_ ?_ ?_ fun name other arrow => ?_).bind ?_
  · obtain ⟨isName, isStruct⟩ := mem_namedStructs isPair
    have known := nameAt_structAddress isNames elsewhere isStruct
    rw [isName, Option.some.injEq] at known
    exact known.symm
  · rw [fst_namedStructs]
    exact introduced.structsDistinct
  · rw [isGraph]
    exact isPrefix_nodes_containment introduced.structsDistinct
  · rw [isGraph]
    exact program.nodup_nodes_containment
  · rw [isGraph, arrow_containment] at arrow
    obtain ⟨pair, member, rfl, -⟩ := arrow
    exact List.mem_map_of_mem member
  rintro _ _ rfl
  rw [isGraph]
  change Ends _ _ ((((state.notingAll program.memberFindings).withScopes store)).notingAll
    program.cycleFindings) _
  refine ends _ ⟨?_, ?_, ?_, fun index declaration isThere => ?_,
    fun index declaration isThere => ?_, introduced.structsDistinct, introduced.functionsDistinct⟩
  · rw [introduced.found]
    simp [CheckState.notingAll_append]
  · simpa using inside
  · simpa [altersStructs.stack] using introduced.declared.stack
  · refine awaits_function introduced.declared introduced.distinct ?_ ?_ elsewhere isThere
    · simpa using altersStructs
    · have areNotes : ∀ finding ∈ program.cycleFindings, finding.isNote := isNote_cycleFindings
      rw [CheckState.notingAll_names, Finding.filterMap_renaming?_of_notes areNotes]
      exact isNames
  · simpa using finished index declaration isThere

/-- What is done before the bodies are checked. -/
def opening (program : Program) : Check Unit := do
  StructDecl.declareAll 0 program.structs
  FunctionDecl.declareAll 0 program.functions
  StructDecl.checkAll 0 program.structs
  program.checkContainment

/-- The checks of all bodies. -/
def checkBodies (program : Program) : Check Unit := do
  FunctionDecl.checkAll 0 program.functions
  match program.main? with
  | some main => main.check
  | none => return

theorem checkParts_eq
    (program : Program) :
    program.checkParts = program.opening >>= fun _ => program.checkBodies := by
  simp only [opening, bind_assoc]
  rfl

theorem ends_opening
    (program : Program) :
    Ends (¬ program.Written) program.opening started fun _ state => Prepared program state := by
  apply program.ends_introduce id
  intro state introduced
  have ends : Ends (¬ program.Written)
      (do
        StructDecl.checkAll 0 program.structs
        program.checkContainment
        pure ())
      state fun _ final => Prepared program final :=
    ends_prepare introduced id fun _ prepared => Ends.pure prepared
  rw [bind_pure] at ends
  exact ends

/-- The scopes of the functions. -/
def functionScopes (program : Program) : List ScopeId :=
  List.range' (program.structs.length + 1) program.functions.length

/-- The scopes of the functions are none of those that say something about the rest. -/
theorem Prepared.apart_functionScopes
    {state : CheckState} (prepared : Prepared program state) :
    ∀ scope ∈ program.functionScopes, scope ∉ [0] ∧
      (∀ name, .ofStruct name scope ∉ program.signature.entries) ∧
        state.scopes.enclosing? scope = none := by
  intro scope touched
  have isAbove := (List.mem_range'_1.mp touched).1
  refine ⟨fun isRoot => ?_, fun name isStruct => ?_, ?_⟩
  · obtain rfl := List.mem_singleton.mp isRoot
    exact Nat.not_succ_le_zero _ isAbove
  · have isBelow := (scope_of_mem_entries isStruct).2
    exact Nat.not_lt_of_le isBelow isAbove
  · obtain ⟨index, isBelow, rfl⟩ := List.mem_range'.mp touched
    have isEmpty := (prepared.awaits index _ (List.getElem?_eq_getElem isBelow)).empty
    simp [enclosing?, isEmpty]

/-- Everything was checked in the outermost scope. -/
structure Finished (program : Program) (store : ScopeStore) : Prop where
  inside : program.signature.Inside [0] [] store
  stack : store.stack = [0]
  structsDistinct : program.structNaming.taken.Nodup
  functionsDistinct : program.functionNaming.taken.Nodup
  visitsFit : Visit.AllFit program.visits
  structs : ∀ index declaration, program.structs[index]? = some declaration →
    StructDecl.Finished store (index + 1) (program.madeBefore index) declaration
  functions : ∀ index declaration, program.functions[index]? = some declaration →
    FunctionDecl.Finished store (program.structs.length + 1 + index) declaration

theorem ends_checkFunctions
    {state : CheckState} (prepared : Prepared program state) :
    Ends (¬ program.Written) (FunctionDecl.checkAll 0 program.functions) state
      (Leaves state (FunctionDecl.checkFindingsOf program.signature 0 program.functions)
        fun store => Visit.AllFit (FunctionDecl.visitsOf program.signature 0 program.functions) ∧
          AltersOnly program.functionScopes state.scopes store ∧
            ∀ index declaration, program.functions[index]? = some declaration →
              FunctionDecl.Finished store (program.structs.length + 1 + index) declaration) := by
  refine Ends.weaken (FunctionDecl.ends_checkAll (program.structs.length + 1) 0 program.functions
    prepared.waiting) ?_ fun _ _ leaves => leaves
  intro some written
  exact some fun declaration member => (written.functions declaration member).body

/-- The checks of all bodies leave alone what was there before, but for the scopes of functions. -/
theorem Prepared.finished
    {state : CheckState} {store : ScopeStore} (prepared : Prepared program state)
    (alters : AltersOnly program.functionScopes state.scopes store)
    (visitsFit : Visit.AllFit program.visits)
    (functions : ∀ index declaration, program.functions[index]? = some declaration →
      FunctionDecl.Finished store (program.structs.length + 1 + index) declaration) :
    program.Finished store where
  inside := prepared.inside.of_altersOnly alters fun scope touched => by
    obtain ⟨notRoot, noStruct, -⟩ := prepared.apart_functionScopes scope touched
    exact ⟨notRoot, noStruct⟩
  stack := alters.stack.trans prepared.stack
  structsDistinct := prepared.structsDistinct
  functionsDistinct := prepared.functionsDistinct
  visitsFit := visitsFit
  structs index declaration isThere :=
    (prepared.structs index declaration isThere).of_altersOnly alters fun scope touched =>
      (prepared.apart_functionScopes scope touched).2.2
  functions := functions

theorem lost_checkFunctions
    {state : CheckState} {store : ScopeStore} (prepared : Prepared program state) :
    ((state.notingAll (FunctionDecl.checkFindingsOf program.signature 0
      program.functions)).withScopes store).withoutResult = program.mainSignature.lost := by
  rw [CheckState.withScopes_withoutResult, CheckState.notingAll_withoutResult,
    FunctionDecl.lost_checkFindingsOf, prepared.withoutResult_eq]
  rfl

theorem ends_checkBodies
    {state : CheckState} (prepared : Prepared program state) :
    Ends (¬ program.Written) program.checkBodies state
      (Leaves state program.bodyFindings fun store =>
        program.Finished store ∧ AltersOnly program.functionScopes state.scopes store) := by
  refine (ends_checkFunctions prepared).bind ?_
  rintro _ _ ⟨store, rfl, fitFunctions, alters, finished⟩
  cases isMain : program.main? with
  | none =>
      have allFit : Visit.AllFit program.visits := by
        rw [visits, mainVisits, isMain]
        exact fitFunctions.append (List.forall_mem_nil _)
      refine Ends.pure ⟨store, ?_, prepared.finished alters allFit finished, alters⟩
      simp [bodyFindings, isMain]
  | some main =>
      have inside : program.signature.Inside [0] [] store :=
        prepared.inside.of_altersOnly alters fun scope touched => by
          obtain ⟨notRoot, noStruct, -⟩ := prepared.apart_functionScopes scope touched
          exact ⟨notRoot, noStruct⟩
      have insideMain : program.mainSignature.Inside [0] [] ((state.notingAll
          (FunctionDecl.checkFindingsOf program.signature 0 program.functions)).withScopes
            store).scopes :=
        inside.losing _
      refine Ends.weaken (main.ends_check insideMain ?_ (lost_checkFunctions prepared))
        (fun some written => ?_) ?_
      · rw [prepared.found]
        simp only [CheckState.notingAll_withScopes]
        exact (CheckState.notingAll_root? _ _).trans (CheckState.notingAll_root? _ _)
      · obtain ⟨declaration, isDeclaration, isWritten⟩ := written.main
        rw [isMain, Option.some.injEq] at isDeclaration
        exact some (isDeclaration ▸ isWritten)
      · rintro _ _ ⟨last, rfl, fitMain, altersLast⟩
        have altersAll : AltersOnly program.functionScopes state.scopes last :=
          alters.trans (altersLast.mono nofun)
        have allFit : Visit.AllFit program.visits := by
          rw [visits, mainVisits, isMain]
          exact fitFunctions.append fitMain
        have finishedLast := prepared.finished altersAll allFit
          fun index declaration isThere =>
            (finished index declaration isThere).of_altersOnly altersLast nofun
        refine ⟨last, ?_, finishedLast, altersAll⟩
        simp [bodyFindings, isMain, CheckState.notingAll_append]

theorem ends_checkParts
    (program : Program) :
    Ends (¬ program.Written) program.checkParts started
      (Leaves started program.findings program.Finished) := by
  rw [program.checkParts_eq]
  refine program.ends_opening.bind fun _ state prepared => ?_
  refine (ends_checkBodies prepared).imp ?_
  rintro _ _ ⟨store, rfl, finished, -⟩
  refine ⟨store, ?_, finished⟩
  rw [prepared.found]
  simp [findings, CheckState.notingAll_append]

/-- What is found when a program is checked, and what its scopes hold in the end. -/
theorem ends_check
    {state : CheckState} (program : Program) :
    Ends (¬ program.Written) program.check state fun _ final =>
      ∃ store, final = (started.notingAll program.findings).withScopes store.pop ∧
        program.Finished store := by
  let prepared : CheckState :=
    { CheckState.initial with scopes := ⟨#[⟨[], none⟩], []⟩, root? := some 0 }
  have ends : Ends (¬ program.Written) (inScope 0 program.checkParts) prepared
      fun _ final => ∃ store,
        final = (started.notingAll program.findings).withScopes store.pop ∧
          program.Finished store := by
    refine ends_inScope (program.ends_checkParts.imp ?_)
    rintro _ _ ⟨store, rfl, finished⟩
    exact ⟨store, rfl, finished⟩
  exact ends

end Program

end StructLang
