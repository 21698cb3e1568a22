import StructLang.Proofs.Check.Members

/-!
# What the check of structs leaves

The structs are checked in order. Each one finds what its members find, and afterwards its scope
lies in the outermost one, holds its fields and accessors, and has the scopes of its accessors
inside. No other scope of a declaration is touched, so the bodies that are checked later see in the
scope of a struct just the fields that were written there.
-/

namespace StructLang

open Check ScopeStore

namespace StructDecl

/-- The fields of a struct, in order. -/
def fields (declaration : StructDecl) : Region := declaration.members.flatMap Stmt.fields

/-- The naming of the accessors of a struct, before which some names were made up. -/
def accessorNaming (made : Nat) (declaration : StructDecl) : Naming :=
  Stmt.namingAfterAll ⟨[], made⟩ declaration.members

/-- How many names were made up after the accessors of some structs got theirs, if some were made up
before. -/
def madeAfter (made : Nat) (structs : List StructDecl) : Nat :=
  structs.foldl (fun reached declaration => (declaration.accessorNaming reached).made) made

/-- What is found at the members of a struct that is known under some name. -/
def checkFindings (entries : List Entry) (container : String) (made : Nat) (address : Address)
    (declaration : StructDecl) : List Finding :=
  Stmt.declareFindingsOf entries container [] ⟨[], made⟩ (0 :: address) 0
      declaration.members ++
    Stmt.bindFindingsOf entries (0 :: address) 0 declaration.members

/-- What is found at the members of structs with the names under which they are known, numbered
from an index on. -/
def checkFindingsOf (entries : List Entry) (made index : Nat) :
    List (String × StructDecl) → List Finding
  | [] => []
  | (container, head) :: tail =>
      head.checkFindings entries container made (Program.structAddress index) ++
        checkFindingsOf entries (head.accessorNaming made).made (index + 1) tail

variable {entries : List Entry} {state : CheckState} {container : String} {scope : ScopeId}

/-- The scope of a struct lies in the outermost one and holds the fields and the accessors of the
struct, before which some names were made up. The scopes of its accessors lie inside, and there are
no structs inside. -/
def Finished (store : ScopeStore) (scope : ScopeId) (made : Nat) (declaration : StructDecl) :
    Prop :=
  ∃ held, store.scopes[scope]? = some ⟨held, some 0⟩ ∧
    (∃ next, Scope.HoldsMembers ⟨held, some 0⟩ declaration.fields
      (Stmt.accessorEntriesOf next ⟨[], made⟩ declaration.members)) ∧
    Stmt.AccessorsBound store scope held ∧ ∀ name inner, .ofStruct name inner ∉ held

theorem Finished.shows
    {store : ScopeStore} {made : Nat} {declaration : StructDecl}
    (finished : Finished store scope made declaration) :
    ∃ held, store.scopes[scope]? = some held ∧ held.Shows declaration.fields := by
  obtain ⟨held, isFound, ⟨next, holds⟩, -⟩ := finished
  exact ⟨_, isFound, holds.shows⟩

/-- What is altered later are scopes that nothing encloses yet. -/
theorem Finished.of_altersOnly
    {altered : List ScopeId} {before after : ScopeStore} {made : Nat} {declaration : StructDecl}
    (finished : Finished before scope made declaration) (alters : AltersOnly altered before after)
    (areFree : ∀ other ∈ altered, before.enclosing? other = none) :
    Finished after scope made declaration := by
  obtain ⟨held, isFound, holds, bound, noStruct⟩ := finished
  refine ⟨held, alters.found isFound fun touched => ?_, holds, bound.of_altersOnly alters areFree,
    noStruct⟩
  have isFree := areFree scope touched
  simp [enclosing?, isFound] at isFree

/-- All members are declared, and none is bound yet. -/
theorem ends_declareMembers
    (address : Address) (rooted : Rooted entries state.scopes)
    (isTop : state.scopes.top? = some scope) (notRoot : scope ≠ 0)
    (isEmpty : state.scopes.scopes[scope]? = some ⟨[], some 0⟩)
    (isCurrent : state.currentStruct? = some container) (declaration : StructDecl) :
    Ends (¬ ∀ member ∈ declaration.members, member.WrittenMember)
      (Stmt.declareMembers (0 :: address) 0 declaration.members) state
      (Leaves state
        (Stmt.declareFindingsOf entries container [] ⟨[], state.renames⟩ (0 :: address) 0
          declaration.members)
        (Stmt.Collected scope (some 0) state.scopes.fresh declaration.fields []
          (Stmt.accessorEntriesOf state.scopes.fresh ⟨[], state.renames⟩ declaration.members)
          (declaration.accessorNaming state.renames) state.scopes)) := by
  have collecting : Collecting scope (some 0) state.scopes.fresh [] []
      ⟨[], state.renames⟩ state.scopes :=
    { top := isTop
      notRoot := notRoot
      found := ⟨[], isEmpty, rfl, rfl⟩
      named := rfl
      distinct := List.nodup_nil
      below := (Array.getElem?_eq_some_iff.mp isEmpty).1
      floorLe := Nat.le_refl _
      fresh := fun other isNew isThere => absurd isThere (Nat.not_lt_of_le isNew) }
  exact (Stmt.ends_declareMembers (0 :: address) 0 rooted isCurrent collecting rfl
    declaration.members).orFail fun some fine => some ⟨Naming.fresh_empty _, fine⟩

theorem ends_checkMembers
    (address : Address) (rooted : Rooted entries state.scopes)
    (isTop : state.scopes.top? = some scope) (notRoot : scope ≠ 0)
    (isEmpty : state.scopes.scopes[scope]? = some ⟨[], some 0⟩)
    (isCurrent : state.currentStruct? = some container)
    (unlisted : ∀ number, state.names.lookup (number :: 0 :: address) = none)
    (declaration : StructDecl) :
    Ends (¬ ∀ member ∈ declaration.members, member.WrittenMember)
      (do
        Stmt.declareMembers (0 :: address) 0 declaration.members
        Stmt.bindMembers (0 :: address) 0 declaration.members)
      state
      (Leaves state (declaration.checkFindings entries container state.renames address)
        fun store => AltersOnly [scope] state.scopes store ∧
          Finished store scope state.renames declaration) := by
  refine (ends_declareMembers address rooted isTop notRoot isEmpty isCurrent declaration).bind ?_
  rintro _ _ ⟨store, rfl, collected⟩
  have isTable : ((state.notingAll (Stmt.declareFindingsOf entries container []
      ⟨[], state.renames⟩ (0 :: address) 0 declaration.members)).withScopes store).names =
      (Stmt.renamingsOf ⟨[], state.renames⟩ (0 :: address) 0 declaration.members).reverse ++
        state.names := by
    have isRenamed : (Stmt.declareFindingsOf entries container [] ⟨[], state.renames⟩
        (0 :: address) 0 declaration.members).filterMap Finding.renaming? =
          Stmt.renamingsOf ⟨[], state.renames⟩ (0 :: address) 0 declaration.members :=
      Stmt.renamingsOf_eq declaration.members
    rw [← isRenamed]
    exact CheckState.notingAll_names _ _
  refine (Stmt.ends_bindMembers ⟨[], state.renames⟩ state.scopes.fresh (0 :: address) 0
    (rooted.of_altersOnly collected.alters (by simpa using notRoot.symm))
    (collected.alters.top?.trans isTop) collected.collecting.below declaration.members
    (Stmt.namedAllIn_renamingsOf _ isTable fun number _ => unlisted number)
    (fun entry member => collected.collecting.find?_accessor member) ?_).imp ?_
  · intro other isNew isThere
    exact collected.collecting.fresh other isNew (collected.size ▸ isThere)
  intro _ _ leaves
  refine Leaves.after leaves ?_
  rintro reached ⟨alters, bound⟩
  have isAbove : ∀ other ∈ List.range' state.scopes.fresh
      (Stmt.accessorEntriesOf state.scopes.fresh ⟨[], state.renames⟩
        declaration.members).length, state.scopes.fresh ≤ other :=
    fun other member => (List.mem_range'_1.mp member).1
  obtain ⟨held, isFound, holds⟩ := collected.collecting.found
  have isOther (entry : Entry) (isEntry : entry ∈ held) (notVariable : entry.key.kind ≠ .vars) :
      entry ∈ Stmt.accessorEntriesOf state.scopes.fresh ⟨[], state.renames⟩
        declaration.members := by
    have isListed : entry ∈ held.filter (·.key.kind ≠ .vars) :=
      List.mem_filter.mpr ⟨isEntry, by simpa using notVariable⟩
    rw [holds.others, List.nil_append] at isListed
    exact isListed
  refine ⟨?_, held, alters.found isFound fun touched => ?_, ⟨_, holds⟩, ?_, ?_⟩
  · have both := (collected.alters.mono fun _ touched _ => List.mem_append_left _ touched).trans
      (alters.mono fun _ touched _ => List.mem_append_right [scope] touched)
    refine both.mono fun other touched isOld => ?_
    rcases List.mem_append.mp touched with isScope | isNew
    · exact isScope
    · exact absurd isOld (Nat.not_lt_of_le (isAbove other isNew))
  · exact Nat.not_lt_of_le (isAbove scope touched) collected.collecting.below
  · intro name result parameters own address? isEntry
    exact bound name result parameters own address? (isOther _ isEntry (by simp [Entry.key]))
  · intro name inner isEntry
    exact Stmt.ofStruct_notMem_accessorEntriesOf (isOther _ isEntry (by simp [Entry.key]))

theorem ends_check
    (address : Address) (rooted : Rooted entries state.scopes)
    (isStack : state.scopes.stack = [0])
    (isEntry : entries.find? (·.key = ⟨.structs, container⟩) =
      some (.ofStruct container scope))
    (notRoot : scope ≠ 0) (isEmpty : state.scopes.scopes[scope]? = some ⟨[], none⟩)
    (noCurrent : state.currentStruct? = none)
    (unlisted : ∀ number, state.names.lookup (number :: 0 :: address) = none)
    (declaration : StructDecl) (isName : state.nameAt address declaration.name = container) :
    Ends (¬ ∀ member ∈ declaration.members, member.WrittenMember)
      (declaration.check address) state
      (Leaves state (declaration.checkFindings entries container state.renames address)
        fun store => AltersOnly [scope] state.scopes store ∧
          Finished store scope state.renames declaration) := by
  have isTop : state.scopes.top? = some 0 := by
    simp [top?, isStack]
  have isPushed : (state.scopes.push scope).scopes[scope]? = some ⟨[], some 0⟩ :=
    attach_self _ isEmpty isTop notRoot.symm
  have pushedTwice : ((state.scopes.push scope).push scope).scopes[scope]? =
      some ⟨[], some 0⟩ := by
    rw [push, attach_eq_self _ (Or.inl rfl)]
    exact isPushed
  refine Ends.afterGet ?_
  simp only [isName, rooted.lookupRoot?_eq, isEntry]
  let entered : CheckState :=
    (state.withScopes (state.scopes.push scope)).withCurrent (some container)
  have rootedInside : Rooted entries
      (entered.withScopes ((state.scopes.push scope).push scope)).scopes :=
    (rooted.push notRoot.symm).push notRoot.symm
  have members : Ends (¬ ∀ member ∈ declaration.members, member.WrittenMember)
      (inScope scope do
        Stmt.declareMembers (0 :: address) 0 declaration.members
        Stmt.bindMembers (0 :: address) 0 declaration.members)
      entered fun _ final => ∃ store,
        final = (entered.notingAll
          (declaration.checkFindings entries container state.renames address)).withScopes
            store.pop ∧
        AltersOnly [scope] ((state.scopes.push scope).push scope) store ∧
        Finished store scope state.renames declaration := by
    refine ends_inScope ((ends_checkMembers address rootedInside rfl notRoot pushedTwice rfl
      unlisted declaration).imp ?_)
    rintro _ _ ⟨store, rfl, about⟩
    exact ⟨store, by simp [entered], about⟩
  refine ends_inScope (Ends.afterChange (members.bind ?_))
  rintro _ _ ⟨store, rfl, alters, finished⟩
  refine Ends.change ⟨store.pop.pop, ?_, ?_, finished⟩
  · change ((((state.withScopes _).withCurrent _).notingAll _).withScopes _
      |>.withCurrent none).withScopes _ = _
    simp only [CheckState.notingAll_withCurrent, CheckState.notingAll_withScopes,
      CheckState.withCurrent_withScopes, CheckState.withScopes_withScopes,
      CheckState.withCurrent_withCurrent, CheckState.withScopes_scopes]
    exact CheckState.withCurrent_self (by simpa using noCurrent)
  · exact (alters.inScope.inScope).mono (by simp)

/-! ## All structs -/

theorem renamings_checkFindings
    {made : Nat} (address : Address) (declaration : StructDecl) :
    (declaration.checkFindings entries container made address).filterMap Finding.renaming? =
      Stmt.renamingsOf ⟨[], made⟩ (0 :: address) 0 declaration.members := by
  rw [checkFindings, List.filterMap_append, Stmt.renamingsOf_eq,
    Finding.filterMap_renaming?_of_notes (Stmt.isNote_bindFindingsOf _), List.append_nil]

/-- A struct waits for its members to be checked: it is declared under a name, its scope is
empty, and its accessors have no names yet. -/
structure Awaits (entries : List Entry) (state : CheckState) (index : Nat) (container : String)
    (declaration : StructDecl) : Prop where
  entry : entries.find? (·.key = ⟨.structs, container⟩) =
    some (.ofStruct container (index + 1))
  empty : state.scopes.scopes[index + 1]? = some ⟨[], none⟩
  named : state.nameAt (Program.structAddress index) declaration.name = container
  unlisted : ∀ number,
    state.names.lookup (number :: 0 :: Program.structAddress index) = none

/-- What happens to another struct is of no concern to one that waits. -/
theorem Awaits.after
    {store : ScopeStore} {index other made : Nat} {otherContainer : String}
    {declaration checked : StructDecl}
    (awaits : Awaits entries state other otherContainer declaration)
    (alters : AltersOnly [index + 1] state.scopes store) (different : other ≠ index) :
    Awaits entries
      ((state.notingAll (checked.checkFindings entries container made
        (Program.structAddress index))).withScopes store)
      other otherContainer declaration := by
  have sameNames (address : Address)
      (elsewhere : ∀ number, address ≠ number :: 0 :: Program.structAddress index) :
      ((state.notingAll (checked.checkFindings entries container made
        (Program.structAddress index))).withScopes store).names.lookup address =
          state.names.lookup address := by
    rw [CheckState.withScopes_names, CheckState.notingAll_names, renamings_checkFindings]
    refine lookup_append_of_notMem fun pair member same => ?_
    obtain ⟨number, -, isAddress⟩ := Stmt.fst_of_mem_renamingsOf (List.mem_reverse.mp member)
    exact elsewhere number (same.symm.trans isAddress)
  refine ⟨awaits.entry, ?_, ?_, fun number => ?_⟩
  · exact alters.found awaits.empty (by simpa using different)
  · rw [CheckState.nameAt, sameNames]
    · exact awaits.named
    · intro number same
      simpa [Program.structAddress] using congrArg List.length same
  · rw [sameNames, awaits.unlisted]
    intro otherNumber same
    simp [Program.structAddress] at same
    exact different same.2

/-- The names that are made up for the accessors of some structs, numbered from an index on. -/
def renamingsOf (made index : Nat) : List StructDecl → List (Address × String)
  | [] => []
  | head :: tail =>
      Stmt.renamingsOf ⟨[], made⟩ (0 :: Program.structAddress index) 0 head.members ++
        renamingsOf (head.accessorNaming made).made (index + 1) tail

theorem renamings_checkFindingsOf
    (made index : Nat) (structs : List (String × StructDecl)) :
    (checkFindingsOf entries made index structs).filterMap Finding.renaming? =
      renamingsOf made index (structs.map Prod.snd) := by
  induction structs generalizing made index with
  | nil => rfl
  | cons head tail inductionHypothesis =>
      rw [checkFindingsOf, List.filterMap_append, renamings_checkFindings, inductionHypothesis]
      rfl

theorem fst_of_mem_renamingsOf
    {made index : Nat} {declarations : List StructDecl} {pair : Address × String}
    (isThere : pair ∈ renamingsOf made index declarations) :
    ∃ number place, index ≤ place ∧ place < index + declarations.length ∧
      pair.1 = number :: 0 :: Program.structAddress place := by
  induction declarations generalizing made index with
  | nil => cases isThere
  | cons head tail inductionHypothesis =>
      rcases List.mem_append.mp isThere with isHead | inTail
      · obtain ⟨number, -, isAddress⟩ := Stmt.fst_of_mem_renamingsOf isHead
        exact ⟨number, index, Nat.le_refl _, Nat.lt_add_of_pos_right (Nat.succ_pos _), isAddress⟩
      · obtain ⟨number, place, atLeast, isBelow, isAddress⟩ := inductionHypothesis inTail
        refine ⟨number, place, Nat.le_of_succ_le atLeast, ?_, isAddress⟩
        rw [List.length_cons]
        omega

/-- Made-up names of accessors stand deep in the tree. -/
theorem length_of_mem_renamings
    {made index : Nat} {structs : List (String × StructDecl)} {pair : Address × String}
    (member : pair ∈ (checkFindingsOf entries made index structs).filterMap Finding.renaming?) :
    pair.1.length = 4 := by
  rw [renamings_checkFindingsOf] at member
  obtain ⟨number, place, -, -, isAddress⟩ := fst_of_mem_renamingsOf member
  rw [isAddress]
  rfl

/-- Structs, numbered from an index on, wait for their checks in the outermost scope. -/
structure Waiting (entries : List Entry) (state : CheckState) (index : Nat)
    (structs : List (String × StructDecl)) : Prop where
  rooted : Rooted entries state.scopes
  stack : state.scopes.stack = [0]
  noCurrent : state.currentStruct? = none
  awaits : ∀ place pair, structs[place]? = some pair →
    Awaits entries state (index + place) pair.1 pair.2

/-- The first of some structs that wait is checked, and the others wait on. -/
theorem ends_checkHead
    {index : Nat} {head : String × StructDecl} {tail : List (String × StructDecl)}
    (waiting : Waiting entries state index (head :: tail)) :
    Ends (¬ ∀ member ∈ head.2.members, member.WrittenMember)
      (head.2.check (Program.structAddress index)) state
      fun found final =>
        Leaves state (head.2.checkFindings entries head.1 state.renames
            (Program.structAddress index))
          (fun store => AltersOnly [index + 1] state.scopes store ∧
            Finished store (index + 1) state.renames head.2) found final ∧
        Waiting entries final (index + 1) tail := by
  have awaitsHead := waiting.awaits 0 head rfl
  refine (ends_check (Program.structAddress index) waiting.rooted waiting.stack awaitsHead.entry
    (Nat.succ_ne_zero _) awaitsHead.empty waiting.noCurrent awaitsHead.unlisted head.2
    awaitsHead.named).imp ?_
  rintro _ _ ⟨store, rfl, alters, finished⟩
  refine ⟨⟨store, rfl, alters, finished⟩, waiting.rooted.of_altersOnly alters (by simp),
    alters.stack.trans waiting.stack, by simpa using waiting.noCurrent, fun place pair isPair => ?_⟩
  have awaitsPair := waiting.awaits (place + 1) pair isPair
  rw [← Nat.add_assoc, Nat.add_right_comm] at awaitsPair
  exact awaitsPair.after alters (by omega)

theorem ends_checkAll
    (index : Nat) (structs : List (String × StructDecl))
    (waiting : Waiting entries state index structs) :
    Ends (¬ ∀ pair ∈ structs, ∀ member ∈ pair.2.members, member.WrittenMember)
      (checkAll index (structs.map Prod.snd)) state
      (Leaves state (checkFindingsOf entries state.renames index structs) fun store =>
        AltersOnly (List.range' (index + 1) structs.length) state.scopes store ∧
          ∀ place pair, structs[place]? = some pair →
            Finished store (index + place + 1)
              (madeAfter state.renames ((structs.take place).map Prod.snd)) pair.2) := by
  induction structs generalizing state index with
  | nil => exact Ends.pure ⟨state.scopes, rfl, AltersOnly.refl _, nofun⟩
  | cons head tail inductionHypothesis =>
      refine ((ends_checkHead waiting).orFail fun some fine =>
        some (fine head List.mem_cons_self)).bind ?_
      rintro _ _ ⟨⟨store, rfl, alters, finished⟩, waitingTail⟩
      have isMade : ((state.notingAll (head.2.checkFindings entries head.1 state.renames
          (Program.structAddress index))).withScopes store).renames =
            (head.2.accessorNaming state.renames).made := by
        rw [CheckState.withScopes_renames, CheckState.notingAll_renames,
          renamings_checkFindings]
        exact Stmt.length_renamingsOf ⟨[], state.renames⟩ head.2.members
      refine Ends.weaken (inductionHypothesis (index + 1) waitingTail)
        (fun some fine => some fun pair inTail => fine pair (.tail _ inTail)) ?_
      intro _ _ leaves
      rw [isMade] at leaves
      refine Leaves.after leaves fun reached later => ?_
      obtain ⟨altersTail, finishedTail⟩ := later
      refine ⟨?_, fun place pair isPair => ?_⟩
      · refine (alters.mono ?_).trans (altersTail.mono ?_)
        · intro other touched _
          rw [List.mem_singleton.mp touched, List.length_cons, List.range'_succ]
          exact List.mem_cons_self
        · intro other touched _
          rw [List.length_cons, List.range'_succ]
          exact List.mem_cons_of_mem _ touched
      · cases place with
        | zero =>
            obtain rfl : head = pair := by simpa using isPair
            refine finished.of_altersOnly altersTail fun other touched => ?_
            obtain ⟨later, isBelow, rfl⟩ := List.mem_range'.mp touched
            have isEmpty := (waitingTail.awaits later _ (List.getElem?_eq_getElem isBelow)).empty
            rw [CheckState.withScopes_scopes, Nat.add_right_comm] at isEmpty
            simp [enclosing?, isEmpty]
        | succ place =>
            have isFinished := finishedTail place pair isPair
            rw [Nat.add_right_comm index 1 place] at isFinished
            exact isFinished

end StructDecl

end StructLang
