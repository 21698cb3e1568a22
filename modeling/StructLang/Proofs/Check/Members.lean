import StructLang.Proofs.Check.Declarations

/-!
# What the members of structs leave

All members of a struct are declared in its scope before the first accessor is bound. A field is a
variable; an accessor is a variable and a function, which has a scope of its own for the
parameters. Fields of struct types are what the containment graph is made of.
-/

namespace StructLang

open Check ScopeStore

/-! ## Fields -/

namespace VariableDecl

/-- What is found at a field of a struct that is known under some name. -/
def fieldFindings (entries : List Entry) (container : String) (here : Region)
    (address : Address) (declaration : VariableDecl) : List Finding :=
  (match declaration.type with
    | .struct part => [.contained part container]
    | _ => []) ++
    declaration.findings entries here address

/-- What is found at several fields, numbered from an index on. -/
def fieldFindingsOf (entries : List Entry) (container : String) (here : Region)
    (address : Address) (index : Nat) : List VariableDecl → List Finding
  | [] => []
  | head :: tail =>
      head.fieldFindings entries container here (index :: address) ++
        fieldFindingsOf entries container (here ++ [head]) address (index + 1) tail

variable {mayFail : Prop} {state : CheckState} {entries : List Entry} {container : String}
  {here : Region} {scope : ScopeId}

theorem ends_checkField
    (address : Address) (rooted : Rooted entries state.scopes)
    (within : Within here scope state.scopes) (isCurrent : state.currentStruct? = some container)
    (declaration : VariableDecl) :
    Ends mayFail (declaration.checkField address) state
      (Leaves state (declaration.fieldFindings entries container here address)
        (· = declareIn state.scopes scope here [declaration])) := by
  refine Ends.afterGet ?_
  rw [isCurrent, fieldFindings]
  split
  case h_1 part known isPart isKnown =>
    obtain rfl := Option.some.inj isKnown
    rw [isPart]
    have rootedStill : Rooted entries (state.notingAll [.contained part container]).scopes :=
      rooted
    refine Ends.afterChange ((ends_check address rootedStill within declaration).imp ?_)
    rintro _ _ ⟨store, isFinal, isStore⟩
    exact ⟨store, by rw [isFinal, CheckState.notingAll_append], isStore⟩
  case h_2 noPart =>
    have none : (match declaration.type with
        | .struct part => [Finding.contained part container]
        | _ => []) = [] := by
      split
      · exact absurd rfl (noPart _ _ ‹_›)
      · rfl
    rw [none]
    exact ends_check address rooted within declaration

theorem ends_checkFields
    (address : Address) (index : Nat) (rooted : Rooted entries state.scopes)
    (within : Within here scope state.scopes) (isCurrent : state.currentStruct? = some container)
    (declarations : List VariableDecl) :
    Ends mayFail (checkFields address index declarations) state
      (Leaves state (fieldFindingsOf entries container here address index declarations)
        (· = declareIn state.scopes scope here declarations)) := by
  induction declarations generalizing state here index with
  | nil =>
      refine Ends.pure ⟨state.scopes, rfl, ?_⟩
      simp [declareIn, firstsBeside, extend_nil]
  | cons head tail inductionHypothesis =>
      refine (ends_checkField (index :: address) rooted within isCurrent head).bind ?_
      rintro _ _ ⟨_, rfl, rfl⟩
      refine (inductionHypothesis (index + 1) (within.rooted rooted [head])
        (within.declare [head]) ?_).imp
        fun _ _ leaves => Leaves.after leaves fun reached isReached => ?_
      · simpa using isCurrent
      · rw [isReached]
        exact declareIn_declareIn _ _ _ _ _

end VariableDecl

/-! ## Members -/

namespace Stmt

/-- The fields that a member of a struct declares. -/
def fields : Stmt → Region
  | .declare fields _ => fields
  | .accessor _ _ _ field _ _ _ => [field]
  | _ => []

/-- The naming of accessors after a member. -/
def namingAfter (naming : Naming) : Stmt → Naming
  | .accessor name .. => naming.next (suffixed name) name
  | _ => naming

/-- The naming of accessors after some members. -/
def namingAfterAll (naming : Naming) (members : List Stmt) : Naming :=
  members.foldl namingAfter naming

/-- The function entry of a member, if it is an accessor; its scope is the next new one. -/
def accessorEntries (next : ScopeId) (naming : Naming) : Stmt → List Entry
  | .accessor name type parameters _ _ _ _ =>
      [.ofFunction (naming.known (suffixed name) name) type parameters next none]
  | _ => []

/-- The function entries of members, in order. -/
def accessorEntriesOf (next : ScopeId) (naming : Naming) : List Stmt → List Entry
  | [] => []
  | head :: tail =>
      head.accessorEntries next naming ++
        accessorEntriesOf (next + (head.accessorEntries next naming).length)
          (head.namingAfter naming) tail

/-- The scopes of accessors are numbered in order. -/
theorem scope_of_mem_accessorEntriesOf
    {next own : Nat} {naming : Naming} {members : List Stmt} {name : String} {result : Ty}
    {parameters : List VariableDecl} {address? : Option Address}
    (isThere : .ofFunction name result parameters own address? ∈
      accessorEntriesOf next naming members) :
    next ≤ own ∧ own < next + (accessorEntriesOf next naming members).length := by
  induction members generalizing next naming with
  | nil => cases isThere
  | cons head tail inductionHypothesis =>
      rw [accessorEntriesOf] at isThere ⊢
      rw [List.length_append]
      rcases List.mem_append.mp isThere with isHead | inTail
      · cases head with
        | accessor =>
            cases List.mem_singleton.mp isHead
            simp only [accessorEntries, List.length_singleton]
            omega
        | _ => cases isHead
      · have further := inductionHypothesis inTail
        omega

theorem ofStruct_notMem_accessorEntriesOf
    {next : ScopeId} {naming : Naming} {members : List Stmt} {name : String} {inner : ScopeId} :
    .ofStruct name inner ∉ accessorEntriesOf next naming members := by
  induction members generalizing next naming with
  | nil => exact List.not_mem_nil
  | cons head tail inductionHypothesis =>
      rw [accessorEntriesOf, List.mem_append, not_or]
      refine ⟨?_, inductionHypothesis⟩
      cases head <;> simp [accessorEntries]

/-- What is found when a member is declared. -/
def declareFindings (entries : List Entry) (container : String) (here : Region)
    (naming : Naming) (address : Address) : Stmt → List Finding
  | .declare fields _ =>
      VariableDecl.fieldFindingsOf entries container here address 0 fields
  | .accessor name _ _ field _ _ _ =>
      field.fieldFindings entries container here (1 :: address) ++
        if name ∈ naming.taken then [.renamed address (suffixed name (naming.made + 1))]
        else []
  | _ => []

/-- What is found when members are declared, numbered from an index on. -/
def declareFindingsOf (entries : List Entry) (container : String) (here : Region)
    (naming : Naming) (address : Address) (index : Nat) : List Stmt → List Finding
  | [] => []
  | head :: tail =>
      head.declareFindings entries container here naming (index :: address) ++
        declareFindingsOf entries container (here ++ head.fields) (head.namingAfter naming)
          address (index + 1) tail

/-- What is found when a member is bound. -/
def bindFindings (entries : List Entry) (address : Address) : Stmt → List Finding
  | .accessor _ _ parameters _ _ _ _ =>
      VariableDecl.findingsOf entries [] (0 :: address) 0 parameters
  | _ => []

/-- What is found when members are bound, numbered from an index on. -/
def bindFindingsOf (entries : List Entry) (address : Address) (index : Nat) :
    List Stmt → List Finding
  | [] => []
  | head :: tail =>
      head.bindFindings entries (index :: address) ++
        bindFindingsOf entries address (index + 1) tail

/-! ## The names that accessors get -/

/-- The made-up name that a member gets, if it gets one. -/
def renamings (naming : Naming) (address : Address) : Stmt → List (Address × String)
  | .accessor name .. =>
      if name ∈ naming.taken then [(address, suffixed name (naming.made + 1))] else []
  | _ => []

/-- The made-up names that members get, numbered from an index on. -/
def renamingsOf (naming : Naming) (address : Address) (index : Nat) :
    List Stmt → List (Address × String)
  | [] => []
  | head :: tail =>
      head.renamings naming (index :: address) ++
        renamingsOf (head.namingAfter naming) address (index + 1) tail

/-- A table gives a member the name that its naming gave it. -/
def NamedIn (names : List (Address × String)) (naming : Naming) (address : Address) :
    Stmt → Prop
  | .accessor name .. =>
      (names.lookup address).getD name = naming.known (suffixed name) name
  | _ => True

/-- A table gives members the names that their naming gave them. -/
def NamedAllIn (names : List (Address × String)) (naming : Naming) (address : Address)
    (index : Nat) : List Stmt → Prop
  | [] => True
  | head :: tail =>
      head.NamedIn names naming (index :: address) ∧
        NamedAllIn names (head.namingAfter naming) address (index + 1) tail

theorem filterMap_renaming?_fieldFindings
    {entries : List Entry} {container : String} {here : Region} {address : Address}
    (field : VariableDecl) :
    (field.fieldFindings entries container here address).filterMap Finding.renaming? = [] := by
  rw [VariableDecl.fieldFindings, List.filterMap_append,
    Finding.filterMap_renaming?_of_notes (isNote_declaration field), List.append_nil]
  split <;> rfl

theorem filterMap_renaming?_fieldFindingsOf
    {entries : List Entry} {container : String} {here : Region} {address : Address}
    {index : Nat} (fields : List VariableDecl) :
    (VariableDecl.fieldFindingsOf entries container here address index fields).filterMap
      Finding.renaming? = [] := by
  induction fields generalizing here index with
  | nil => rfl
  | cons head tail inductionHypothesis =>
      rw [VariableDecl.fieldFindingsOf, List.filterMap_append, inductionHypothesis,
        filterMap_renaming?_fieldFindings, List.append_nil]

theorem renamings_eq
    {entries : List Entry} {container : String} {here : Region} {naming : Naming}
    {address : Address} (member : Stmt) :
    (member.declareFindings entries container here naming address).filterMap
      Finding.renaming? = member.renamings naming address := by
  cases member with
  | declare declared => exact filterMap_renaming?_fieldFindingsOf declared
  | accessor name type parameters field =>
      rw [declareFindings, List.filterMap_append, filterMap_renaming?_fieldFindings, renamings]
      split <;> simp
  | _ => rfl

theorem renamingsOf_eq
    {entries : List Entry} {container : String} {here : Region} {naming : Naming}
    {address : Address} {index : Nat} (members : List Stmt) :
    (declareFindingsOf entries container here naming address index members).filterMap
      Finding.renaming? = renamingsOf naming address index members := by
  induction members generalizing here naming index with
  | nil => rfl
  | cons head tail inductionHypothesis =>
      rw [declareFindingsOf, List.filterMap_append, renamings_eq, inductionHypothesis]
      rfl

theorem length_renamings
    {naming : Naming} {address : Address} (member : Stmt) :
    naming.made + (member.renamings naming address).length = (member.namingAfter naming).made := by
  cases member with
  | accessor name =>
      rw [renamings, namingAfter, Naming.next]
      split <;> rfl
  | _ => rfl

theorem length_renamingsOf
    (naming : Naming) {address : Address} {index : Nat} (members : List Stmt) :
    naming.made + (renamingsOf naming address index members).length =
      (namingAfterAll naming members).made := by
  induction members generalizing naming index with
  | nil => rfl
  | cons head tail inductionHypothesis =>
      rw [renamingsOf, List.length_append, ← Nat.add_assoc, length_renamings,
        inductionHypothesis]
      rfl

theorem fst_of_mem_renamings
    {naming : Naming} {address : Address} {member : Stmt} {pair : Address × String}
    (isThere : pair ∈ member.renamings naming address) : pair.1 = address := by
  cases member with
  | accessor name =>
      rw [renamings] at isThere
      split at isThere
      · rw [List.mem_singleton.mp isThere]
      · cases isThere
  | _ => cases isThere

theorem fst_of_mem_renamingsOf
    {naming : Naming} {address : Address} {index : Nat} {members : List Stmt}
    {pair : Address × String} (isThere : pair ∈ renamingsOf naming address index members) :
    ∃ number, index ≤ number ∧ pair.1 = number :: address := by
  induction members generalizing naming index with
  | nil => cases isThere
  | cons head tail inductionHypothesis =>
      rcases List.mem_append.mp isThere with isHead | inTail
      · exact ⟨index, Nat.le_refl _, fst_of_mem_renamings isHead⟩
      · obtain ⟨number, atLeast, isAddress⟩ := inductionHypothesis inTail
        exact ⟨number, Nat.le_of_succ_le atLeast, isAddress⟩

/-- After members got their names, the table gives them just those. -/
theorem namedAllIn_renamingsOf
    {names earlier : List (Address × String)} {naming : Naming} {address : Address} {index : Nat}
    (members : List Stmt)
    (isTable : names = (renamingsOf naming address index members).reverse ++ earlier)
    (unlisted : ∀ number, index ≤ number → earlier.lookup (number :: address) = none) :
    NamedAllIn names naming address index members := by
  induction members generalizing naming index earlier with
  | nil => trivial
  | cons head tail inductionHypothesis =>
      rw [renamingsOf, List.reverse_append, List.append_assoc] at isTable
      refine ⟨?_, inductionHypothesis isTable fun number atLeast => ?_⟩
      · cases head with
        | accessor name =>
            have others : ∀ pair ∈ (renamingsOf (naming.next (suffixed name) name) address
                (index + 1) tail).reverse, pair.1 ≠ index :: address := by
              intro pair member same
              obtain ⟨number, atLeast, isAddress⟩ :=
                fst_of_mem_renamingsOf (List.mem_reverse.mp member)
              have sameNumber := (List.cons.inj (isAddress.symm.trans same)).1
              omega
            rw [NamedIn, isTable, namingAfter, lookup_append_of_notMem others, renamings,
              Naming.known]
            split
            · simp
            · simp [unlisted index (Nat.le_refl _)]
        | _ => trivial
      · rw [lookup_append_of_notMem, unlisted number (Nat.le_of_succ_le atLeast)]
        intro pair member same
        have isHead := fst_of_mem_renamings (List.mem_reverse.mp member)
        have sameNumber := (List.cons.inj (isHead.symm.trans same)).1
        omega

end Stmt

/-! ## The scope of a struct while its members come in -/

/-- A scope holds the first of some fields as variables, and beside them these entries. -/
structure Scope.HoldsMembers (scope : Scope) (fields : Region) (accessors : List Entry) :
    Prop where
  vars : scope.entries.filter (·.key.kind = .vars) = fields.entries
  others : scope.entries.filter (·.key.kind ≠ .vars) = accessors

namespace Scope.HoldsMembers

variable {scope : Scope} {fields : Region} {accessors : List Entry}

theorem shows
    (holds : scope.HoldsMembers fields accessors) : scope.Shows fields := by
  intro name
  rw [find?, ← Region.find?_entries, ← holds.vars, List.find?_filter]
  congr 1
  funext entry
  by_cases isKey : entry.key = ⟨.vars, name⟩ <;> simp [isKey]

theorem find?_function
    (holds : scope.HoldsMembers fields accessors) (name : String) :
    scope.find? ⟨.functions, name⟩ = accessors.find? (·.key = ⟨.functions, name⟩) := by
  rw [find?, ← holds.others, List.find?_filter]
  congr 1
  funext entry
  by_cases isKey : entry.key = ⟨.functions, name⟩ <;> simp [isKey]

theorem declare
    (holds : scope.HoldsMembers fields accessors) (declared : Region) :
    HoldsMembers
      { scope with
        entries := scope.entries ++
          (VariableDecl.firstsBeside fields.names declared).map VariableDecl.entry }
      (fields ++ declared) accessors where
  vars := by
    have areVariables : ((VariableDecl.firstsBeside fields.names declared).map
        VariableDecl.entry).filter (·.key.kind = .vars) =
        (VariableDecl.firstsBeside fields.names declared).map VariableDecl.entry :=
      List.filter_eq_self.mpr fun entry member => by
        obtain ⟨declaration, -, rfl⟩ := List.mem_map.mp member
        rfl
    rw [List.filter_append, holds.vars, areVariables, Region.entries_append]
  others := by
    have noOthers : ((VariableDecl.firstsBeside fields.names declared).map
        VariableDecl.entry).filter (·.key.kind ≠ .vars) = [] :=
      List.filter_eq_nil_iff.mpr fun entry member => by
        obtain ⟨declaration, -, rfl⟩ := List.mem_map.mp member
        simp [VariableDecl.entry, Entry.key]
    rw [List.filter_append, holds.others, noOthers, List.append_nil]

theorem addFunction
    (holds : scope.HoldsMembers fields accessors) (name : String) (result : Ty)
    (parameters : List VariableDecl) (own : ScopeId) (address? : Option Address) :
    HoldsMembers
      { scope with
        entries := scope.entries ++ [.ofFunction name result parameters own address?] }
      fields (accessors ++ [.ofFunction name result parameters own address?]) where
  vars := by
    rw [List.filter_append, holds.vars]
    exact List.append_nil _
  others := by
    rw [List.filter_append, holds.others]
    rfl

end Scope.HoldsMembers

/-- The members of a struct come into the innermost scope, which is the struct's. The names of its
accessors are those that were given, and all scopes from some number on are new and empty. -/
structure Collecting (scope : ScopeId) (enclosing? : Option ScopeId) (floor : ScopeId)
    (fields : Region) (accessors : List Entry) (naming : Naming) (store : ScopeStore) :
    Prop where
  top : store.top? = some scope
  notRoot : scope ≠ 0
  found : ∃ held, store.scopes[scope]? = some ⟨held, enclosing?⟩ ∧
    Scope.HoldsMembers ⟨held, enclosing?⟩ fields accessors
  named : accessors.map Entry.key = naming.taken.map fun name => ⟨.functions, name⟩
  distinct : naming.taken.Nodup
  below : scope < floor
  floorLe : floor ≤ store.scopes.size
  fresh : ∀ other : Nat, floor ≤ other → other < store.scopes.size →
    store.scopes[other]? = some ⟨[], none⟩

namespace Collecting

variable {scope floor : ScopeId} {enclosing? : Option ScopeId} {fields : Region}
  {accessors : List Entry} {naming : Naming} {store : ScopeStore}

theorem within
    (collecting : Collecting scope enclosing? floor fields accessors naming store) :
    VariableDecl.Within fields scope store := by
  obtain ⟨held, isFound, holds⟩ := collecting.found
  exact ⟨collecting.top, collecting.notRoot, _, isFound, holds.shows⟩

theorem different
    (collecting : Collecting scope enclosing? floor fields accessors naming store)
    {other : ScopeId} (isNew : floor ≤ other) : other ≠ scope :=
  Nat.ne_of_gt (Nat.lt_of_lt_of_le collecting.below isNew)

/-- A name is free for an accessor if it was not given to one. -/
theorem find?_function_eq_none
    (collecting : Collecting scope enclosing? floor fields accessors naming store)
    (name : String) :
    store.find? scope ⟨.functions, name⟩ = none ↔ name ∉ naming.taken := by
  obtain ⟨held, isFound, holds⟩ := collecting.found
  rw [find?_eq _ isFound, holds.find?_function, ← Option.not_isSome_iff_eq_none,
    find?_key_isSome, collecting.named]
  simp

/-- Every accessor is found under its name. -/
theorem find?_accessor
    (collecting : Collecting scope enclosing? floor fields accessors naming store)
    {entry : Entry} (member : entry ∈ accessors) :
    store.find? scope entry.key = some entry := by
  obtain ⟨held, isFound, holds⟩ := collecting.found
  have distinct : (accessors.map Entry.key).Nodup := by
    rw [collecting.named]
    exact List.Pairwise.map _ (fun _ _ different same => different (Key.mk.inj same).2)
      collecting.distinct
  have isKey := List.mem_map_of_mem (f := Entry.key) member
  rw [collecting.named] at isKey
  obtain ⟨name, -, isName⟩ := List.mem_map.mp isKey
  rw [find?_eq _ isFound, ← isName, holds.find?_function, isName]
  exact find?_key_of_mem distinct member

theorem declare
    (collecting : Collecting scope enclosing? floor fields accessors naming store)
    (declared : Region) :
    Collecting scope enclosing? floor (fields ++ declared) accessors naming
      (VariableDecl.declareIn store scope fields declared) := by
  obtain ⟨held, isFound, holds⟩ := collecting.found
  refine { collecting with
    found := ⟨_, extend_self _ isFound, holds.declare declared⟩
    floorLe := ?_
    fresh := fun other isNew isThere => ?_ }
  · rw [VariableDecl.declareIn, extend_size]
    exact collecting.floorLe
  · rw [VariableDecl.declareIn, extend_size] at isThere
    rw [VariableDecl.declareIn, extend_other _ _ (collecting.different isNew)]
    exact collecting.fresh other isNew isThere

theorem create
    (collecting : Collecting scope enclosing? floor fields accessors naming store) :
    Collecting scope enclosing? floor fields accessors naming (store.create none) := by
  obtain ⟨held, isFound, holds⟩ := collecting.found
  have isThere := (Array.getElem?_eq_some_iff.mp isFound).1
  refine { collecting with
    found := ⟨held, ?_, holds⟩
    floorLe := ?_
    fresh := fun other isNew isBelow => ?_ }
  · rw [create_scopes, if_neg (show scope ≠ store.fresh from Nat.ne_of_lt isThere), isFound]
  · rw [create_size]
    exact Nat.le_succ_of_le collecting.floorLe
  · rw [create_scopes]
    split
    case isTrue => rfl
    case isFalse isOld =>
      rw [create_size] at isBelow
      exact collecting.fresh other isNew
        (Nat.lt_of_le_of_ne (Nat.le_of_lt_succ isBelow) isOld)

/-- An accessor comes in under a name. -/
theorem addFunction
    (collecting : Collecting scope enclosing? floor fields accessors naming store)
    {name : String} (isFree : name ∉ naming.taken) (result : Ty)
    (parameters : List VariableDecl) (own : ScopeId) (made : Nat) :
    Collecting scope enclosing? floor fields
      (accessors ++ [.ofFunction name result parameters own none])
      ⟨naming.taken ++ [name], made⟩
      (store.extend scope [.ofFunction name result parameters own none]) := by
  obtain ⟨held, isFound, holds⟩ := collecting.found
  refine { collecting with
    found := ⟨_, extend_self _ isFound, holds.addFunction name result parameters own none⟩
    named := ?_
    distinct := ?_
    floorLe := ?_
    fresh := fun other isNew isThere => ?_ }
  · rw [List.map_append, List.map_append, collecting.named]
    rfl
  · refine List.nodup_append.mpr ⟨collecting.distinct, by simp, fun old isTaken new isNew => ?_⟩
    exact fun same => isFree (List.mem_singleton.mp isNew ▸ same ▸ isTaken)
  · rw [extend_size]
    exact collecting.floorLe
  · rw [extend_size] at isThere
    rw [extend_other _ _ (collecting.different isNew)]
    exact collecting.fresh other isNew isThere

end Collecting

/-! ## Declaring the members leaves just that -/

namespace Stmt

variable {entries : List Entry} {container : String} {scope floor : ScopeId}
  {enclosing? : Option ScopeId} {fields : Region} {accessors : List Entry} {naming : Naming}
  {state : CheckState}

/-- What the scopes are after some members came in that make these accessors. -/
structure Collected (scope : ScopeId) (enclosing? : Option ScopeId) (floor : ScopeId)
    (fields : Region) (accessors new : List Entry) (naming : Naming)
    (before after : ScopeStore) : Prop where
  alters : AltersOnly [scope] before after
  size : after.scopes.size = before.scopes.size + new.length
  collecting : Collecting scope enclosing? floor fields (accessors ++ new) naming after

/-- An accessor's function comes into the scope of its struct, under a made-up name if its own is
taken. -/
theorem ends_insertAccessor
    (address : Address) (name : String) (result : Ty) (parameters : List VariableDecl)
    (own : ScopeId)
    (collecting : Collecting scope enclosing? floor fields accessors naming state.scopes)
    (isMade : state.renames = naming.made) :
    Ends (¬ (naming.Fresh ∧ PlainName name))
      (do
        if !(← tryInsert (.ofFunction name result parameters own none)) then
          insertRenamed address s!"{name}@{← nextRename}"
            (.ofFunction name result parameters own none))
      state
      (Leaves state
        (if name ∈ naming.taken then [.renamed address (suffixed name (naming.made + 1))]
          else [])
        fun store => naming.known (suffixed name) name ∉ naming.taken ∧
          store = state.scopes.extend scope
            [.ofFunction (naming.known (suffixed name) name) result parameters own none]) := by
  refine ends_tryInsert collecting.top (fun isNew => ?_) fun isOld => ?_
  · have isFree := (collecting.find?_function_eq_none name).mp isNew
    rw [if_neg isFree, Naming.known_of_free isFree]
    exact Ends.pure ⟨_, rfl, isFree, rfl⟩
  · have isKnown : name ∈ naming.taken := Classical.not_not.mp fun isFree =>
      isOld ((collecting.find?_function_eq_none name).mpr isFree)
    rw [if_pos isKnown, Naming.known_of_taken isKnown, ← isMade]
    refine ends_nextRename (ends_insertRenamed collecting.top
      (fun isFree => ⟨_, rfl, ?_, rfl⟩) fun isKnownToo fine => ?_)
    · exact (collecting.find?_function_eq_none _).mp isFree
    · refine isKnownToo ((collecting.find?_function_eq_none _).mpr ?_)
      rw [isMade]
      exact fine.1.notMem (.suffixed _ fine.2)

theorem ends_declareMember
    (address : Address) (rooted : Rooted entries state.scopes)
    (isCurrent : state.currentStruct? = some container)
    (collecting : Collecting scope enclosing? floor fields accessors naming state.scopes)
    (isMade : state.renames = naming.made) (member : Stmt) :
    Ends (¬ (naming.Fresh ∧ member.WrittenMember)) (member.declareMember address) state
      (Leaves state (member.declareFindings entries container fields naming address)
        (Collected scope enclosing? floor (fields ++ member.fields) accessors
          (member.accessorEntries state.scopes.fresh naming) (member.namingAfter naming)
          state.scopes)) := by
  cases member with
  | declare declared position =>
      refine (VariableDecl.ends_checkFields address 0 rooted collecting.within isCurrent
        declared).imp ?_
      rintro _ _ ⟨_, isFinal, rfl⟩
      have noNew : accessors ++ (declare declared position).accessorEntries
          state.scopes.fresh naming = accessors := List.append_nil accessors
      refine ⟨_, isFinal, AltersOnly.extend _ _ _, extend_size _ _ _, ?_⟩
      rw [noNew]
      exact collecting.declare declared
  | accessor name type parameters field setBody getBody position =>
      refine (VariableDecl.ends_checkField (1 :: address) rooted collecting.within isCurrent
        field).bind ?_
      rintro _ _ ⟨store, rfl, rfl⟩
      have withField := (collecting.declare [field]).create
      have isNext : (VariableDecl.declareIn state.scopes scope fields [field]).fresh =
          state.scopes.fresh := extend_size _ _ _
      have stillMade : (((state.notingAll (field.fieldFindings entries container fields
          (1 :: address))).withScopes (VariableDecl.declareIn state.scopes scope fields
            [field])).withScopes ((VariableDecl.declareIn state.scopes scope fields
              [field]).create none)).renames = naming.made := by
        rw [CheckState.withScopes_renames, CheckState.withScopes_renames,
          CheckState.notingAll_renames, filterMap_renaming?_fieldFindings, isMade]
        rfl
      refine ends_newScope ?_
      rw [CheckState.withScopes_scopes, isNext]
      refine Ends.weaken (ends_insertAccessor address name type parameters
        state.scopes.fresh withField stillMade) (fun some fine => some ⟨fine.1, fine.2.1⟩) ?_
      intro _ _ leaves
      refine Leaves.after leaves ?_
      rintro _ ⟨isFree, rfl⟩
      refine ⟨?_, ?_, withField.addFunction isFree _ _ _ _⟩
      · exact ((AltersOnly.extend _ _ _).trans (AltersOnly.create _ _)).trans
          (AltersOnly.extend _ _ _)
      · rw [extend_size]
        exact (create_size _ _).trans (congrArg (· + 1) (extend_size _ _ _))
  | absent => exact Ends.throw fun fine => fine.2
  | block | assign | branch | loop | display | append | size | call | giveBack | stray =>
      exact Ends.throw fun fine => fine.2

theorem Collected.trans
    {earlier later : List Entry} {between : Naming} {here : Region}
    {first second third : ScopeStore}
    (collected : Collected scope enclosing? floor here accessors earlier between first second)
    (collectedNext : Collected scope enclosing? floor fields (accessors ++ earlier) later naming
      second third) :
    Collected scope enclosing? floor fields accessors (earlier ++ later) naming first third where
  alters := collected.alters.trans collectedNext.alters
  size := by
    rw [collectedNext.size, collected.size, List.length_append, Nat.add_assoc]
  collecting := by
    rw [← List.append_assoc]
    exact collectedNext.collecting

theorem ends_declareMembers
    (address : Address) (index : Nat) (rooted : Rooted entries state.scopes)
    (isCurrent : state.currentStruct? = some container)
    (collecting : Collecting scope enclosing? floor fields accessors naming state.scopes)
    (isMade : state.renames = naming.made) (members : List Stmt) :
    Ends (¬ (naming.Fresh ∧ ∀ member ∈ members, member.WrittenMember))
      (declareMembers address index members) state
      (Leaves state (declareFindingsOf entries container fields naming address index members)
        (Collected scope enclosing? floor (fields ++ members.flatMap Stmt.fields) accessors
          (accessorEntriesOf state.scopes.fresh naming members)
          (namingAfterAll naming members) state.scopes)) := by
  induction members generalizing state fields accessors naming index with
  | nil =>
      refine Ends.pure ⟨state.scopes, rfl, AltersOnly.refl _, rfl, ?_⟩
      simpa [accessorEntriesOf, namingAfterAll] using collecting
  | cons head tail inductionHypothesis =>
      refine ((ends_declareMember (index :: address) rooted isCurrent collecting isMade
        head).orFail fun some fine => some ⟨fine.1, fine.2 head List.mem_cons_self⟩).bind ?_
      rintro _ _ ⟨store, rfl, collected⟩
      have rootedStill := rooted.of_altersOnly collected.alters
        (by simpa using collecting.notRoot.symm)
      have isNext : store.fresh =
          state.scopes.fresh + (head.accessorEntries state.scopes.fresh naming).length :=
        collected.size
      refine Ends.weaken (inductionHypothesis (index + 1) rootedStill ?_ collected.collecting ?_)
        (fun some fine => some ⟨?_, fun member inTail => fine.2 member (.tail _ inTail)⟩) ?_
      · simpa using isCurrent
      · rw [CheckState.withScopes_renames, CheckState.notingAll_renames, renamings_eq, isMade,
          length_renamings]
      · cases head with
        | accessor name =>
            have written := fine.2 _ List.mem_cons_self
            exact fine.1.next written.1 fun count => .suffixed count written.1
        | _ => exact fine.1
      intro _ _ leaves
      refine Leaves.after leaves fun reached collectedNext => ?_
      rw [CheckState.withScopes_scopes, isNext, List.append_assoc] at collectedNext
      exact collected.trans collectedNext

/-! ## Binding the members leaves just that -/

/-- Each accessor among some entries has a scope that holds its parameters and lies in the scope
of its struct. -/
def AccessorsBound (store : ScopeStore) (scope : ScopeId) (entries : List Entry) : Prop :=
  ∀ name result parameters own address?,
    .ofFunction name result parameters own address? ∈ entries →
      store.scopes[own]? = some ⟨Region.entries parameters, some scope⟩

theorem AccessorsBound.nil
    {store : ScopeStore} : AccessorsBound store scope [] :=
  fun _ _ _ _ _ isEntry => absurd isEntry List.not_mem_nil

theorem AccessorsBound.of_altersOnly
    {altered : List ScopeId} {before after : ScopeStore} {entries : List Entry}
    (bound : AccessorsBound before scope entries) (alters : AltersOnly altered before after)
    (areFree : ∀ other ∈ altered, before.enclosing? other = none) :
    AccessorsBound after scope entries := by
  intro name result parameters own address? isEntry
  have isFound := bound name result parameters own address? isEntry
  refine alters.found isFound fun touched => ?_
  have isFree := areFree own touched
  simp [enclosing?, isFound] at isFree

theorem AccessorsBound.append
    {store : ScopeStore} {earlier later : List Entry} (bound : AccessorsBound store scope earlier)
    (boundToo : AccessorsBound store scope later) :
    AccessorsBound store scope (earlier ++ later) := by
  intro name result parameters own address? isEntry
  rcases List.mem_append.mp isEntry with isEarlier | isLater
  · exact bound name result parameters own address? isEarlier
  · exact boundToo name result parameters own address? isLater

/-- Scopes numbered from some number on that are new: nothing is in them and nothing encloses
them. -/
def NewScopes (store : ScopeStore) (next count : Nat) : Prop :=
  ∀ other : Nat, next ≤ other → other < next + count → store.scopes[other]? = some ⟨[], none⟩

theorem NewScopes.later
    {first second : ScopeStore} {next count more : Nat}
    (areNew : NewScopes first next (count + more))
    (alters : AltersOnly (List.range' next count) first second) :
    NewScopes second (next + count) more := by
  intro other isThere isBelow
  have isNew := areNew other (by omega) (by omega)
  exact alters.found isNew (by rw [List.mem_range'_1]; omega)

/-- What the scopes are after accessors were bound, each to the next one of the new scopes. -/
structure Bound (scope : ScopeId) (next : Nat) (entries : List Entry)
    (before after : ScopeStore) : Prop where
  alters : AltersOnly (List.range' next entries.length) before after
  accessors : AccessorsBound after scope entries

theorem Bound.refl
    {store : ScopeStore} {next : Nat} : Bound scope next [] store store :=
  ⟨AltersOnly.refl _, AccessorsBound.nil⟩

theorem Bound.trans
    {earlier later : List Entry} {next : Nat} {first second third : ScopeStore}
    (bound : Bound scope next earlier first second)
    (boundNext : Bound scope (next + earlier.length) later second third)
    (areNew : NewScopes second (next + earlier.length) later.length) :
    Bound scope next (earlier ++ later) first third := by
  constructor
  · refine (bound.alters.mono ?_).trans (boundNext.alters.mono ?_) <;>
      · intro other member _
        rw [List.mem_range'_1] at member ⊢
        rw [List.length_append]
        omega
  · refine AccessorsBound.append ?_ boundNext.accessors
    refine bound.accessors.of_altersOnly boundNext.alters fun other touched => ?_
    rw [List.mem_range'_1] at touched
    simp [enclosing?, areNew other touched.1 touched.2]

/-- The parameters of an accessor come into its own scope, which the scope of its struct encloses
then. -/
theorem ends_bindMember
    {mayFail : Prop} (naming : Naming) (next : ScopeId) (address : Address)
    (rooted : Rooted entries state.scopes)
    (isTop : state.scopes.top? = some scope) (member : Stmt)
    (named : member.NamedIn state.names naming address)
    (isFound : ∀ entry ∈ member.accessorEntries next naming,
      state.scopes.find? scope entry.key = some entry)
    (isNew : ∀ entry ∈ member.accessorEntries next naming,
      next ≠ scope ∧ next ≠ 0 ∧ state.scopes.scopes[next]? = some ⟨[], none⟩) :
    Ends mayFail (member.bindMember address) state
      (Leaves state (member.bindFindings entries address)
        (Bound scope next (member.accessorEntries next naming) state.scopes)) := by
  cases member with
  | accessor name type parameters field setBody getBody position =>
      obtain ⟨notScope, notRoot, isEmpty⟩ := isNew _ (List.mem_singleton_self _)
      have isEntry := isFound _ (List.mem_singleton_self _)
      have isName : state.nameAt address name = naming.known (suffixed name) name := named
      have isHere : state.scopes.lookupHere? ⟨.functions, naming.known (suffixed name) name⟩ =
          some (.ofFunction (naming.known (suffixed name) name) type parameters next none) := by
        rw [lookupHere?, isTop, Option.bind_some]
        exact isEntry
      have enclosed : (state.scopes.enclose next scope).scopes[next]? =
          some ⟨[], some scope⟩ := by
        simp [enclose, Array.getElem?_modify, isEmpty]
      have alters := AltersOnly.enclose state.scopes next scope
      have isAttached : (state.scopes.enclose next scope).attach next =
          state.scopes.enclose next scope :=
        attach_eq_self _ (Or.inr (by simp [enclosing?, enclosed]))
      have entered : ((state.scopes.enclose next scope).push next).scopes[next]? =
          some ⟨[], some scope⟩ := by
        rw [push, isAttached]
        exact enclosed
      refine Ends.afterGet ?_
      simp only [isName, isHere, isTop]
      refine ends_modifyScopes (ends_inScope ?_)
      have rootedInside := (rooted.of_altersOnly alters (by simpa using notRoot.symm)).push
        notRoot.symm
      have within : VariableDecl.Within [] next
          ((state.scopes.enclose next scope).push next) :=
        ⟨rfl, notRoot, _, entered, Scope.shows_entries [] (some scope)⟩
      refine (VariableDecl.ends_checkAll (0 :: address) 0 rootedInside within parameters).imp ?_
      rintro _ _ ⟨_, rfl, rfl⟩
      refine ⟨(VariableDecl.declareIn ((state.scopes.enclose next scope).push next) next []
        parameters).pop, by simp [bindFindings], ?_, ?_⟩
      · refine alters.trans ((AltersOnly.inScope (AltersOnly.extend _ _ _)).mono ?_)
        simp
      · intro _ _ _ _ _ isThis
        cases List.mem_singleton.mp isThis
        exact extend_self _ entered
  | _ => exact Ends.pure ⟨_, rfl, Bound.refl⟩

theorem isNote_bindFindings
    {address : Address} (member : Stmt) :
    ∀ finding ∈ member.bindFindings entries address, finding.isNote := by
  cases member with
  | accessor name type parameters => exact isNote_declarations parameters
  | _ => exact List.forall_mem_nil _

theorem isNote_bindFindingsOf
    {address : Address} {index : Nat} (members : List Stmt) :
    ∀ finding ∈ bindFindingsOf entries address index members, finding.isNote := by
  induction members generalizing index with
  | nil => exact List.forall_mem_nil _
  | cons head tail inductionHypothesis =>
      exact List.forall_mem_append.mpr ⟨isNote_bindFindings head, inductionHypothesis⟩

theorem ends_bindMembers
    {mayFail : Prop} (naming : Naming) (next : Nat) (address : Address) (index : Nat)
    (rooted : Rooted entries state.scopes) (isTop : state.scopes.top? = some scope)
    (isBelow : scope < next) (members : List Stmt)
    (named : NamedAllIn state.names naming address index members)
    (isFound : ∀ entry ∈ accessorEntriesOf next naming members,
      state.scopes.find? scope entry.key = some entry)
    (areNew : NewScopes state.scopes next (accessorEntriesOf next naming members).length) :
    Ends mayFail (bindMembers address index members) state
      (Leaves state (bindFindingsOf entries address index members)
        (Bound scope next (accessorEntriesOf next naming members) state.scopes)) := by
  induction members generalizing state naming index next with
  | nil => exact Ends.pure ⟨state.scopes, rfl, Bound.refl⟩
  | cons head tail inductionHypothesis =>
      rw [accessorEntriesOf, List.length_append] at areNew
      rw [accessorEntriesOf, List.forall_mem_append] at isFound
      have isPositive : 0 < next := Nat.zero_lt_of_lt isBelow
      refine (ends_bindMember naming next (index :: address) rooted isTop head named.1 isFound.1
        fun entry member => ⟨Nat.ne_of_gt isBelow, Nat.ne_of_gt isPositive,
          areNew next (Nat.le_refl _) ?_⟩).bind ?_
      · have positive := List.length_pos_of_mem member
        omega
      rintro _ _ ⟨store, rfl, bound⟩
      have untouched (other : Nat) (isOld : other < next) :
          other ∉ List.range' next (head.accessorEntries next naming).length := by
        rw [List.mem_range'_1]
        omega
      have sameNames : ((state.notingAll (head.bindFindings entries (index :: address))).withScopes
          store).names = state.names := by
        rw [CheckState.withScopes_names, CheckState.notingAll_names,
          Finding.filterMap_renaming?_of_notes (isNote_bindFindings head)]
        rfl
      have newStill := areNew.later bound.alters
      refine (inductionHypothesis (head.namingAfter naming)
        (next + (head.accessorEntries next naming).length) (index + 1)
        (rooted.of_altersOnly bound.alters (untouched 0 isPositive))
        (bound.alters.top?.trans isTop) (Nat.lt_of_lt_of_le isBelow (Nat.le_add_right _ _))
        ?_ ?_ newStill).imp fun _ _ leaves => Leaves.after leaves fun _ boundNext =>
          bound.trans boundNext newStill
      · rw [sameNames]
        exact named.2
      · intro entry member
        obtain ⟨held, isHeld, isEntry⟩ := Option.bind_eq_some_iff.mp (isFound.2 entry member)
        have kept := bound.alters.found isHeld (untouched scope isBelow)
        rw [CheckState.withScopes_scopes, find?_eq _ kept, isEntry]

end Stmt

end StructLang
