import StructLang.Program.Check
import StructLang.Proofs.Check.Names
import StructLang.Proofs.Check.Signatures
import StructLang.Proofs.Check.Statements

/-!
# What the declarations of structs and functions leave

Every struct and every function puts one entry into the outermost scope, under its own name or a
made-up one, and has a scope of its own, which stays empty for now. The numbers of the scopes
follow the order of the declarations.
-/

namespace StructLang

open Check ScopeStore

/-! ## Entries of the outermost scope -/

/-- The entries of structs that are known under some names. -/
def structEntries (known : List String) : List Entry :=
  known.mapIdx fun index name => .ofStruct name (index + 1)

/-- The entries of functions that are known under some names; their scopes come after those of
the structs. -/
def functionEntries (structs : Nat) (known : List String) (functions : List FunctionDecl) :
    List Entry :=
  (known.zip functions).mapIdx fun index (name, declaration) =>
    .ofFunction name declaration.result declaration.parameters (structs + index + 1)
      (some (Program.functionAddress index))

theorem structEntries_append
    (known : List String) (name : String) :
    structEntries (known ++ [name]) =
      structEntries known ++ [.ofStruct name (known.length + 1)] := by
  simp [structEntries, List.mapIdx_append]

theorem length_structEntries
    (known : List String) : (structEntries known).length = known.length := by
  simp [structEntries]

theorem functionEntries_append
    (structs : Nat) {known : List String} {functions : List FunctionDecl} (name : String)
    (declaration : FunctionDecl) (sameLength : known.length = functions.length) :
    functionEntries structs (known ++ [name]) (functions ++ [declaration]) =
      functionEntries structs known functions ++
        [.ofFunction name declaration.result declaration.parameters
          (structs + functions.length + 1)
          (some (Program.functionAddress functions.length))] := by
  simp [functionEntries, List.zip_append sameLength, List.mapIdx_append, sameLength]

theorem length_functionEntries
    (structs : Nat) {known : List String} {functions : List FunctionDecl}
    (sameLength : known.length = functions.length) :
    (functionEntries structs known functions).length = functions.length := by
  simp [functionEntries, sameLength]

/-- The entries of the outermost scope. -/
def rootEntries (structs known : List String) (functions : List FunctionDecl) : List Entry :=
  structEntries structs ++ functionEntries structs.length known functions

/-! ## Keys of entries -/

theorem keys_structEntries
    (known : List String) :
    (structEntries known).map Entry.key = known.map fun name => ⟨.structs, name⟩ := by
  refine List.ext_getElem (by simp [structEntries]) fun index _ _ => ?_
  simp [structEntries, Entry.key]

theorem keys_functionEntries
    (structs : Nat) {known : List String} {functions : List FunctionDecl}
    (sameLength : known.length = functions.length) :
    (functionEntries structs known functions).map Entry.key =
      known.map fun name => ⟨.functions, name⟩ := by
  refine List.ext_getElem (by simp [functionEntries, sameLength]) fun index _ _ => ?_
  simp [functionEntries, Entry.key]

theorem find?_key_isSome
    (entries : List Entry) (key : Key) :
    (entries.find? (·.key = key)).isSome ↔ key ∈ entries.map Entry.key := by
  simp

/-- If no key is given twice, each entry is found under its key. -/
theorem find?_key_of_mem
    {entries : List Entry} {entry : Entry} (distinct : (entries.map Entry.key).Nodup)
    (member : entry ∈ entries) :
    entries.find? (·.key = entry.key) = some entry := by
  induction entries with
  | nil => cases member
  | cons head tail inductionHypothesis =>
      obtain ⟨notInTail, tailDistinct⟩ := List.nodup_cons.mp distinct
      rcases List.mem_cons.mp member with rfl | inTail
      · simp
      · have different : head.key ≠ entry.key := fun same =>
          notInTail (same ▸ List.mem_map_of_mem inTail)
        rw [List.find?_cons_of_neg (by simpa using different)]
        exact inductionHypothesis tailDistinct inTail

section Keys

variable {structs : List String} {known : List String} {functions : List FunctionDecl}

theorem isSome_struct
    (sameLength : known.length = functions.length) (name : String) :
    ((rootEntries structs known functions).find? (·.key = ⟨.structs, name⟩)).isSome ↔
      name ∈ structs := by
  rw [find?_key_isSome, rootEntries, List.map_append, keys_structEntries,
    keys_functionEntries _ sameLength]
  simp

theorem isSome_function
    (sameLength : known.length = functions.length) (name : String) :
    ((rootEntries structs known functions).find? (·.key = ⟨.functions, name⟩)).isSome ↔
      name ∈ known := by
  rw [find?_key_isSome, rootEntries, List.map_append, keys_structEntries,
    keys_functionEntries _ sameLength]
  simp

theorem nodup_keys
    (sameLength : known.length = functions.length) (structsDistinct : structs.Nodup)
    (functionsDistinct : known.Nodup) :
    ((rootEntries structs known functions).map Entry.key).Nodup := by
  rw [rootEntries, List.map_append, keys_structEntries, keys_functionEntries _ sameLength]
  refine List.nodup_append.mpr ⟨?_, ?_, ?_⟩
  · exact List.Pairwise.map _ (fun _ _ different same => different (Key.mk.inj same).2)
      structsDistinct
  · exact List.Pairwise.map _ (fun _ _ different same => different (Key.mk.inj same).2)
      functionsDistinct
  · simp

theorem mem_structEntries
    {name : String} {scope : ScopeId} :
    .ofStruct name scope ∈ structEntries structs ↔
      ∃ index, structs[index]? = some name ∧ scope = index + 1 := by
  simp only [structEntries, List.mem_mapIdx, Entry.ofStruct.injEq, List.getElem?_eq_some_iff]
  grind

end Keys

/-! ## Findings of declarations -/

/-- What is found at a declaration to which a naming gives its name. -/
def namingFindings (kind : DiagnosticKind) (address : Address) (position : Position)
    (naming : Naming) (name : String) : List Finding :=
  if name ∈ naming.taken then
    [.complaint kind address position [name],
      .renamed address (numbered (naming.made + 1))]
  else []

/-- What is found when structs are declared, numbered from an index on. -/
def StructDecl.declareFindings (naming : Naming) (index : Nat) :
    List StructDecl → List Finding
  | [] => []
  | head :: tail =>
      namingFindings .duplicateStruct (Program.structAddress index) head.position naming
          head.name ++
        (.containing (naming.known numbered head.name) ::
          declareFindings (naming.next numbered head.name) (index + 1) tail)

/-- What is found when functions are declared, numbered from an index on. -/
def FunctionDecl.declareFindings (structs : List String) (naming : Naming) (index : Nat) :
    List FunctionDecl → List Finding
  | [] => []
  | head :: tail =>
      (if head.name ∈ structs then
        [.complaint .functionStructConflict (Program.functionAddress index) head.position
          [head.name]] else []) ++
      (namingFindings .duplicateFunction (Program.functionAddress index) head.position naming
          head.name ++
        declareFindings structs (naming.next numbered head.name) (index + 1) tail)

/-! ## The names that declarations get -/

/-- The made-up names that declarations get, numbered from an index on. -/
def renamings (address : Nat → Address) (naming : Naming) (index : Nat) :
    List String → List (Address × String)
  | [] => []
  | head :: tail =>
      (if head ∈ naming.taken then [(address index, numbered (naming.made + 1))] else []) ++
        renamings address (naming.next numbered head) (index + 1) tail

theorem filterMap_renaming?_namingFindings
    (kind : DiagnosticKind) (address : Address) (position : Position) (naming : Naming)
    (name : String) :
    (namingFindings kind address position naming name).filterMap Finding.renaming? =
      if name ∈ naming.taken then [(address, numbered (naming.made + 1))] else [] := by
  rw [namingFindings]
  split <;> simp [Finding.complaint, List.filterMap_cons]

theorem StructDecl.renamings_eq
    (naming : Naming) (index : Nat) (structs : List StructDecl) :
    (declareFindings naming index structs).filterMap Finding.renaming? =
      renamings Program.structAddress naming index (structs.map (·.name)) := by
  induction structs generalizing naming index with
  | nil => rfl
  | cons head tail inductionHypothesis =>
      rw [declareFindings, List.filterMap_append, filterMap_renaming?_namingFindings,
        List.filterMap_cons, inductionHypothesis]
      rfl

theorem FunctionDecl.renamings_eq
    (structs : List String) (naming : Naming) (index : Nat) (functions : List FunctionDecl) :
    (declareFindings structs naming index functions).filterMap Finding.renaming? =
      renamings Program.functionAddress naming index (functions.map (·.name)) := by
  induction functions generalizing naming index with
  | nil => rfl
  | cons head tail inductionHypothesis =>
      have noRenaming : (if head.name ∈ structs then
          [Finding.complaint .functionStructConflict (Program.functionAddress index)
            head.position [head.name]] else []).filterMap Finding.renaming? = [] := by
        split <;> simp [Finding.complaint, List.filterMap_cons]
      rw [declareFindings, List.filterMap_append, List.filterMap_append, noRenaming,
        filterMap_renaming?_namingFindings, inductionHypothesis]
      rfl

theorem length_renamings
    (address : Nat → Address) (naming : Naming) (index : Nat) (names : List String) :
    naming.made + (renamings address naming index names).length =
      (naming.afterAll names).made := by
  induction names generalizing naming index with
  | nil => rfl
  | cons head tail inductionHypothesis =>
      rw [Naming.afterAll_cons, ← inductionHypothesis, renamings, List.length_append,
        ← Nat.add_assoc, Naming.next]
      split <;> rfl

theorem fst_mem_renamings
    {address : Nat → Address} {naming : Naming} {index : Nat} {names : List String}
    {pair : Address × String} (member : pair ∈ renamings address naming index names) :
    ∃ number, index ≤ number ∧ pair.1 = address number := by
  induction names generalizing naming index with
  | nil => cases member
  | cons head tail inductionHypothesis =>
      rw [renamings] at member
      rcases List.mem_append.mp member with isHead | inTail
      · split at isHead
        · exact ⟨index, Nat.le_refl _, List.mem_singleton.mp isHead ▸ rfl⟩
        · cases isHead
      · obtain ⟨number, atLeast, isAddress⟩ := inductionHypothesis inTail
        exact ⟨number, Nat.le_of_succ_le atLeast, isAddress⟩

/-- A table that has no entry for an address has none for it after more entries for others. -/
theorem lookup_append_of_notMem
    {later earlier : List (Address × String)} {address : Address}
    (unlisted : ∀ pair ∈ later, pair.1 ≠ address) :
    (later ++ earlier).lookup address = earlier.lookup address := by
  have missing : later.lookup address = none := by
    rw [List.lookup_eq_none_iff]
    exact fun pair member => bne_iff_ne.mpr (unlisted pair member).symm
  rw [List.lookup_append, missing, Option.none_or]

/-- The tables lead from a declaration to the name that its naming gave it. -/
theorem lookup_renamings
    (address : Nat → Address)
    (injective : ∀ left right, address left = address right → left = right) (naming : Naming)
    (index : Nat) (names : List String) (earlier : List (Address × String)) {place : Nat}
    {name : String} (isName : names[place]? = some name)
    (unlisted : earlier.lookup (address (index + place)) = none) :
    (naming.afterAll names).taken[naming.taken.length + place]? =
      some ((((renamings address naming index names).reverse ++ earlier).lookup
        (address (index + place))).getD name) := by
  induction names generalizing naming index earlier place with
  | nil => cases isName
  | cons head tail inductionHypothesis =>
      rw [renamings, List.reverse_append, List.append_assoc, Naming.afterAll_cons]
      cases place with
      | zero =>
          obtain ⟨new, isNew, -⟩ := (naming.next numbered head).prefix_afterAll tail
          obtain rfl : head = name := by simpa using isName
          have others : ∀ pair ∈ (renamings address (naming.next numbered head) (index + 1)
              tail).reverse, pair.1 ≠ address (index + 0) := by
            intro pair member same
            obtain ⟨number, atLeast, isAddress⟩ := fst_mem_renamings (List.mem_reverse.mp member)
            have sameNumber := injective _ _ (isAddress.symm.trans same)
            omega
          rw [lookup_append_of_notMem others, isNew]
          by_cases isTaken : head ∈ naming.taken
          · simp [Naming.next_of_taken isTaken, isTaken]
          · simp [Naming.next_of_free isTaken, isTaken, show earlier.lookup (address index) = none
              from unlisted]
      | succ place =>
          have isPlace : index + (place + 1) = index + 1 + place := by omega
          have isLength : naming.taken.length + (place + 1) =
              (naming.next numbered head).taken.length + place := by
            simp [Naming.next]
            omega
          rw [isPlace] at unlisted ⊢
          rw [isLength]
          refine inductionHypothesis _ _ _ (by simpa using isName) ?_
          rw [lookup_append_of_notMem, unlisted]
          intro pair member same
          split at member
          · obtain rfl := List.mem_singleton.mp (List.mem_reverse.mp member)
            have sameNumber := injective _ _ same
            omega
          · cases member

/-! ## The scopes while declarations come in -/

/-- The stack holds the outermost scope, which has one entry for each further scope; all of those
are empty. -/
structure Declared (entries : List Entry) (store : ScopeStore) : Prop where
  stack : store.stack = [0]
  found : store.scopes[0]? = some ⟨entries, none⟩
  size : store.scopes.size = entries.length + 1
  others : ∀ scope : Nat, 0 < scope → scope ≤ entries.length →
    store.scopes[scope]? = some ⟨[], none⟩

namespace Declared

variable {entries : List Entry} {store : ScopeStore}

theorem top
    (declared : Declared entries store) : store.top? = some 0 := by
  simp [top?, declared.stack]

theorem rooted
    (declared : Declared entries store) : Rooted entries store :=
  ⟨by simp [root?, declared.stack], declared.found⟩

theorem fresh
    (declared : Declared entries store) : store.fresh = entries.length + 1 :=
  declared.size

/-- One more declaration makes a scope and an entry. -/
theorem declare
    (declared : Declared entries store) (entry : Entry) :
    Declared (entries ++ [entry]) ((store.create none).extend 0 [entry]) where
  stack := declared.stack
  found := by
    have notFresh : 0 ≠ store.fresh := by
      rw [declared.fresh]
      exact (Nat.succ_ne_zero _).symm
    have isFound : (store.create none).scopes[0]? = some ⟨entries, none⟩ := by
      rw [create_scopes, if_neg notFresh, declared.found]
    exact extend_self [entry] isFound
  size := by
    rw [extend_size, create_size, declared.size, List.length_append, List.length_singleton]
  others := fun scope isPositive isThere => by
    rw [extend_other _ _ (Nat.ne_of_gt isPositive), create_scopes]
    split
    case isTrue => rfl
    case isFalse isOld =>
      rw [declared.fresh] at isOld
      rw [List.length_append, List.length_singleton] at isThere
      exact declared.others scope isPositive
        (Nat.le_of_lt_succ (Nat.lt_of_le_of_ne isThere isOld))

end Declared

/-! ## Declarations leave just that -/

/-- The step that gives a declaration its name and puts its entry into the outermost scope. -/
theorem ends_declare
    {entries : List Entry} (kind : DiagnosticKind) (address : Address) (position : Position)
    (entry : Entry) (state : CheckState) (naming : Naming) (isTop : state.scopes.top? = some 0)
    (isFound : state.scopes.scopes[0]? = some ⟨entries, none⟩)
    (isTaken : ∀ name, ⟨entry.key.kind, name⟩ ∈ entries.map Entry.key ↔ name ∈ naming.taken)
    (isMade : state.renames = naming.made) :
    Ends (¬ naming.Fresh) (declare kind address position entry) state fun name final =>
      name = naming.known numbered entry.name ∧ name ∉ naming.taken ∧
        final = (state.notingAll (namingFindings kind address position naming
          entry.name)).withScopes (state.scopes.extend 0 [entry.rename name]) := by
  have isNone (name : String) :
      state.scopes.find? 0 ⟨entry.key.kind, name⟩ = none ↔ name ∉ naming.taken := by
    rw [find?_eq _ isFound, Scope.find?, ← isTaken, ← find?_key_isSome]
    simp
  have ownKey : entry.key = ⟨entry.key.kind, entry.name⟩ := by cases entry <;> rfl
  have ownName : entry.rename entry.name = entry := by cases entry <;> rfl
  refine ends_tryInsert isTop (fun isNew => ?_) fun isOld => ?_
  · have isFree : entry.name ∉ naming.taken := (isNone _).mp (ownKey ▸ isNew)
    rw [namingFindings, if_neg isFree, Naming.known_of_free isFree]
    exact Ends.pure ⟨rfl, isFree, by rw [ownName]; rfl⟩
  · rw [ne_eq, ownKey, isNone, Classical.not_not] at isOld
    rw [namingFindings, if_pos isOld, Naming.known_of_taken isOld]
    refine ends_afterReport ?_
    generalize isComplained :
      state.notingAll [.complaint kind address position [entry.name]] = complained
    have sameScopes : complained.scopes = state.scopes := by
      rw [← isComplained, CheckState.notingAll_scopes]
    have sameRenames : complained.renames = naming.made := by
      rw [← isComplained]
      exact isMade
    have inserted : Ends (¬ naming.Fresh)
        (insertRenamed address (numbered (naming.made + 1)) entry)
        { complained with renames := complained.renames + 1 } fun _ final =>
          numbered (naming.made + 1) ∉ naming.taken ∧
            final = (complained.notingAll
              [.renamed address (numbered (naming.made + 1))]).withScopes
                (state.scopes.extend 0 [entry.rename (numbered (naming.made + 1))]) := by
      refine ends_insertRenamed (by rw [sameScopes, isTop]) (fun isFree => ?_)
        fun isKnown fresh => isKnown ?_
      · rw [sameScopes, isNone] at isFree
        rw [sameScopes]
        exact ⟨isFree, rfl⟩
      · rw [sameScopes, isNone]
        exact fresh.notMem (.numbered _)
    refine ends_nextRename ?_
    rw [sameRenames] at inserted ⊢
    refine inserted.bind ?_
    rintro _ _ ⟨isFree, rfl⟩
    refine Ends.pure ⟨rfl, isFree, ?_⟩
    rw [← isComplained, ← CheckState.notingAll_append]
    rfl

theorem renames_namingFindings
    {state : CheckState} {naming : Naming} {kind : DiagnosticKind} {address : Address}
    {position : Position} {name : String} (isMade : state.renames = naming.made) :
    (state.notingAll (namingFindings kind address position naming name)).renames =
      (naming.next numbered name).made := by
  rw [CheckState.notingAll_renames, isMade, namingFindings, Naming.next]
  split <;> simp [Finding.complaint, List.filterMap_cons]

theorem StructDecl.ends_declare
    {state : CheckState} {naming : Naming} (address : Address) (declaration : StructDecl)
    (declared : Declared (structEntries naming.taken) state.scopes)
    (isMade : state.renames = naming.made) :
    Ends (¬ naming.Fresh) (declaration.declare address) state
      (Leaves state
        (namingFindings .duplicateStruct address declaration.position naming
          declaration.name ++ [.containing (naming.known numbered declaration.name)])
        fun store => Declared (structEntries (naming.next numbered declaration.name).taken)
          store ∧ naming.known numbered declaration.name ∉ naming.taken) := by
  refine ends_newScope ?_
  rw [declared.fresh, length_structEntries]
  have isFound : (state.scopes.create none).scopes[0]? =
      some ⟨structEntries naming.taken, none⟩ := by
    have notFresh : 0 ≠ state.scopes.fresh := by
      rw [declared.fresh]
      exact (Nat.succ_ne_zero _).symm
    rw [create_scopes, if_neg notFresh, declared.found]
  refine (StructLang.ends_declare .duplicateStruct address declaration.position
    (.ofStruct declaration.name (naming.taken.length + 1))
    (state.withScopes (state.scopes.create none)) naming declared.top isFound
    (fun name => ?_) isMade).bind ?_
  · rw [keys_structEntries]
    simp [Entry.key]
  rintro name _ ⟨isName, isFree, rfl⟩
  refine Ends.change ⟨(state.scopes.create none).extend 0
    [.ofStruct name (naming.taken.length + 1)], ?_, ?_, isName ▸ isFree⟩
  · rw [CheckState.notingAll_append, CheckState.notingAll_withScopes, isName]
    rfl
  · have isKnown : naming.known numbered declaration.name = name := isName.symm
    rw [Naming.next, isKnown, structEntries_append]
    exact declared.declare _

theorem StructDecl.ends_declareAll
    {state : CheckState} (naming : Naming) (index : Nat) (structs : List StructDecl)
    (declared : Declared (structEntries naming.taken) state.scopes)
    (isMade : state.renames = naming.made) (distinct : naming.taken.Nodup) :
    Ends (¬ (naming.Fresh ∧ ∀ declaration ∈ structs, PlainName declaration.name))
      (declareAll index structs) state
      (Leaves state (declareFindings naming index structs) fun store =>
        Declared (structEntries (naming.afterAll (structs.map (·.name))).taken) store ∧
          (naming.afterAll (structs.map (·.name))).taken.Nodup) := by
  induction structs generalizing state naming index with
  | nil => exact Ends.pure ⟨state.scopes, rfl, declared, distinct⟩
  | cons head tail inductionHypothesis =>
      refine ((ends_declare (Program.structAddress index) head declared isMade).orFail
        fun some fine => some fine.1).bind ?_
      rintro _ _ ⟨store, rfl, declaredNext, isFree⟩
      refine Ends.weaken (inductionHypothesis _ (index + 1) declaredNext ?_ ?_) ?_ ?_
      · rw [CheckState.notingAll_append]
        exact renames_namingFindings isMade
      · exact Naming.nodup_next distinct isFree
      · intro some fine
        obtain ⟨isPlain, arePlain⟩ := List.forall_mem_cons.mp fine.2
        exact some ⟨fine.1.next isPlain .numbered, arePlain⟩
      · intro _ _ leaves
        rw [declareFindings, List.append_cons]
        exact Leaves.after leaves fun _ => id

section Functions

variable {structs : List String} {done : List FunctionDecl}

theorem FunctionDecl.ends_declare
    {state : CheckState} {naming : Naming} (declaration : FunctionDecl)
    (declared : Declared (rootEntries structs naming.taken done) state.scopes)
    (sameLength : naming.taken.length = done.length) (isMade : state.renames = naming.made) :
    Ends (¬ naming.Fresh) (declaration.declare (Program.functionAddress done.length)) state
      (Leaves state
        ((if declaration.name ∈ structs then
          [.complaint .functionStructConflict (Program.functionAddress done.length)
            declaration.position [declaration.name]] else []) ++
          namingFindings .duplicateFunction (Program.functionAddress done.length)
            declaration.position naming declaration.name)
        fun store => Declared
          (rootEntries structs (naming.next numbered declaration.name).taken
            (done ++ [declaration])) store ∧
          naming.known numbered declaration.name ∉ naming.taken) := by
  refine Ends.afterGet ?_
  simp only [declared.rooted.lookupRoot?_eq, isSome_struct sameLength]
  refine ends_reportIf ?_
  generalize isEarlier : (if declaration.name ∈ structs then
    [Finding.complaint .functionStructConflict (Program.functionAddress done.length)
      declaration.position [declaration.name]] else []) = earlier
  have complained : (state.notingAll earlier).scopes = state.scopes :=
    CheckState.notingAll_scopes _ _
  have stillMade : (state.notingAll earlier).renames = naming.made := by
    rw [CheckState.notingAll_renames, isMade, ← isEarlier]
    split <;> simp [Finding.complaint, List.filterMap_cons]
  refine ends_newScope ?_
  rw [complained, declared.fresh, rootEntries, List.length_append, length_structEntries,
    length_functionEntries _ sameLength]
  have isFound : (state.scopes.create none).scopes[0]? =
      some ⟨rootEntries structs naming.taken done, none⟩ := by
    have notFresh : 0 ≠ state.scopes.fresh := by
      rw [declared.fresh]
      exact (Nat.succ_ne_zero _).symm
    rw [create_scopes, if_neg notFresh, declared.found]
  refine Ends.discarding ((StructLang.ends_declare .duplicateFunction _ declaration.position _
    ((state.notingAll earlier).withScopes (state.scopes.create none)) naming declared.top isFound
    (fun name => ?_) stillMade).imp ?_)
  · rw [rootEntries, List.map_append, keys_structEntries, keys_functionEntries _ sameLength]
    simp [Entry.key]
  rintro name _ ⟨isName, isFree, rfl⟩
  refine ⟨(state.scopes.create none).extend 0
    [.ofFunction name declaration.result declaration.parameters
      (structs.length + done.length + 1) (some (Program.functionAddress done.length))],
    ?_, ?_, isName ▸ isFree⟩
  · rw [CheckState.notingAll_append, CheckState.notingAll_withScopes]
    rfl
  · have isKnown : naming.known numbered declaration.name = name := isName.symm
    rw [Naming.next, isKnown, rootEntries, functionEntries_append _ _ _ sameLength,
      ← List.append_assoc]
    exact declared.declare _

theorem FunctionDecl.ends_declareAll
    {state : CheckState} (done : List FunctionDecl) (naming : Naming)
    (functions : List FunctionDecl)
    (declared : Declared (rootEntries structs naming.taken done) state.scopes)
    (sameLength : naming.taken.length = done.length) (isMade : state.renames = naming.made)
    (distinct : naming.taken.Nodup) :
    Ends (¬ (naming.Fresh ∧ ∀ declaration ∈ functions, PlainName declaration.name))
      (declareAll done.length functions) state
      (Leaves state (declareFindings structs naming done.length functions) fun store =>
        Declared (rootEntries structs (naming.afterAll (functions.map (·.name))).taken
          (done ++ functions)) store ∧
          (naming.afterAll (functions.map (·.name))).taken.Nodup) := by
  induction functions generalizing state naming done with
  | nil =>
      exact Ends.pure ⟨state.scopes, rfl, by simpa [Naming.afterAll] using declared, distinct⟩
  | cons head tail inductionHypothesis =>
      refine ((ends_declare head declared sameLength isMade).orFail
        fun some fine => some fine.1).bind ?_
      rintro _ _ ⟨store, rfl, declaredNext, isFree⟩
      have nextLength : (naming.next numbered head.name).taken.length =
          (done ++ [head]).length := by
        simp [Naming.next, sameLength]
      have isIndex : done.length + 1 = (done ++ [head]).length := by simp
      have sameDone : done ++ head :: tail = (done ++ [head]) ++ tail := by simp
      rw [declareFindings, isIndex, ← List.append_assoc, sameDone]
      refine Ends.weaken (inductionHypothesis _ _ declaredNext nextLength ?_ ?_) ?_
        fun _ _ leaves => Leaves.after leaves fun _ => id
      · rw [CheckState.notingAll_append]
        refine renames_namingFindings ?_
        rw [CheckState.notingAll_renames, isMade]
        split <;> simp [Finding.complaint, List.filterMap_cons]
      · exact Naming.nodup_next distinct isFree
      · intro some fine
        obtain ⟨isPlain, arePlain⟩ := List.forall_mem_cons.mp fine.2
        exact some ⟨fine.1.next isPlain .numbered, arePlain⟩

end Functions

end StructLang
