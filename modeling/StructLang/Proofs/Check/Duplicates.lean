import StructLang.Proofs.Check.Accessors
import StructLang.Proofs.Check.Meanings
import StructLang.Proofs.Check.Outcome

/-!
# Declarations that share a name

The structs of a program, its functions, and the accessors of each struct are groups in which each
name is given once. A declaration that is not the first of its name in its group gets a made-up one.
The numbers of the made-up names run through all groups.

- `Called.repeats` : the declarations of a group that are not the first of their name.
- `Program.duplicates` : those of all groups, in the order in which their names are made up.
- `Outcome.names_reverse` : the table of names after a check.
-/

namespace StructLang

open Check

/-- A declaration that gets a name: where it is, what it is called, and how its name is made up with
a number if another one has the name already. -/
structure Called where
  address : Address
  name : String
  position : Position
  madeUp : Nat → String

namespace Called

/-- Those of some declarations whose name is among some seen ones or that of an earlier one. -/
def repeatsBeside (seen : List String) : List Called → List Called
  | [] => []
  | head :: tail =>
      (if head.name ∈ seen then [head] else []) ++ repeatsBeside (seen ++ [head.name]) tail

/-- Those of some declarations that are not the first of their name. -/
def repeats (group : List Called) : List Called := repeatsBeside [] group

/-- The names that are made up for declarations, if some were made up before. -/
def madeUpAfter (made : Nat) (declarations : List Called) : List (Address × String) :=
  declarations.mapIdx fun place called => (called.address, called.madeUp (made + place + 1))

/-- A name that can be written, in place of which others are made up with numbers. -/
structure Proper (called : Called) : Prop where
  plain : PlainName called.name
  usesNumber : ∀ count, UsesNumber (called.madeUp count) count

theorem madeUpAfter_append
    (made : Nat) (earlier later : List Called) :
    madeUpAfter made (earlier ++ later) =
      madeUpAfter made earlier ++ madeUpAfter (made + earlier.length) later := by
  rw [madeUpAfter, List.mapIdx_append]
  simp only [madeUpAfter, Nat.add_assoc, Nat.add_comm earlier.length]

theorem length_madeUpAfter
    (made : Nat) (declarations : List Called) :
    (madeUpAfter made declarations).length = declarations.length :=
  List.length_mapIdx

theorem map_fst_madeUpAfter
    (made : Nat) (declarations : List Called) :
    (madeUpAfter made declarations).map Prod.fst = declarations.map address := by
  refine List.ext_getElem (by simp [madeUpAfter]) fun place _ _ => ?_
  simp [madeUpAfter]

theorem repeatsBeside_sublist
    (seen : List String) (group : List Called) : (repeatsBeside seen group).Sublist group := by
  induction group generalizing seen with
  | nil => exact List.Sublist.refl _
  | cons head tail inductionHypothesis =>
      rw [repeatsBeside]
      split
      · exact (inductionHypothesis _).cons_cons head
      · exact (inductionHypothesis _).cons head

/-- Among declarations at distinct addresses, those are not the first of their name of which an
earlier one has the name, or which was seen before. -/
theorem mem_repeatsBeside
    {seen : List String} {group : List Called} (distinct : (group.map address).Nodup) {place : Nat}
    {called : Called} (isThere : group[place]? = some called) :
    called ∈ repeatsBeside seen group ↔
      called.name ∈ seen ∨ called.name ∈ (group.take place).map name := by
  induction group generalizing seen place with
  | nil => cases isThere
  | cons head tail inductionHypothesis =>
      rw [List.map_cons, List.nodup_cons] at distinct
      obtain ⟨isAlone, distinctTail⟩ := distinct
      rw [repeatsBeside, List.mem_append]
      cases place with
      | zero =>
          obtain rfl := Option.some.inj isThere
          have notLater : head ∉ repeatsBeside (seen ++ [head.name]) tail := fun isLater =>
            isAlone (List.mem_map_of_mem ((repeatsBeside_sublist _ _).subset isLater))
          simp [notLater]
      | succ place =>
          have inTail : tail[place]? = some called := isThere
          have notHead : called ≠ head := by
            rintro rfl
            exact isAlone (List.mem_map_of_mem (List.mem_of_getElem? inTail))
          have notIn : called ∉ (if head.name ∈ seen then [head] else []) := by
            split <;> simp [notHead]
          rw [or_iff_right notIn, inductionHypothesis distinctTail inTail]
          simp [or_assoc]

theorem mem_repeats
    {group : List Called} (distinct : (group.map address).Nodup) {place : Nat} {called : Called}
    (isThere : group[place]? = some called) :
    called ∈ repeats group ↔ called.name ∈ (group.take place).map name := by
  rw [repeats, mem_repeatsBeside distinct isThere, or_iff_right List.not_mem_nil]

end Called

/-! ## What is made up -/

namespace Naming

open Called

/-- Those of some declarations whose name is taken when they are given theirs. -/
def clashes (naming : Naming) : List Called → List Called
  | [] => []
  | head :: tail =>
      (if head.name ∈ naming.taken then [head] else []) ++
        clashes (naming.next head.madeUp head.name) tail

/-- The names that are made up when some declarations are given theirs. -/
def renamings (naming : Naming) : List Called → List (Address × String)
  | [] => []
  | head :: tail =>
      (if head.name ∈ naming.taken then [(head.address, head.madeUp (naming.made + 1))] else []) ++
        renamings (naming.next head.madeUp head.name) tail

theorem renamings_eq
    (naming : Naming) (group : List Called) :
    naming.renamings group = madeUpAfter naming.made (naming.clashes group) := by
  induction group generalizing naming with
  | nil => rfl
  | cons head tail inductionHypothesis =>
      rw [renamings, clashes, inductionHypothesis, madeUpAfter_append]
      by_cases isTaken : head.name ∈ naming.taken
      · rw [if_pos isTaken, if_pos isTaken, next_of_taken isTaken]
        rfl
      · rw [if_neg isTaken, if_neg isTaken, next_of_free isTaken]
        rfl

/-- The name of a declaration is taken exactly if it is not the first of its name. -/
theorem clashes_eq
    {naming : Naming} {seen : List String} {group : List Called}
    (saw : ∀ name, PlainName name → (name ∈ naming.taken ↔ name ∈ seen))
    (proper : ∀ called ∈ group, called.Proper) :
    naming.clashes group = repeatsBeside seen group := by
  induction group generalizing naming seen with
  | nil => rfl
  | cons head tail inductionHypothesis =>
      obtain ⟨properHead, properTail⟩ := List.forall_mem_cons.mp proper
      have sawNext : ∀ name, PlainName name →
          (name ∈ (naming.next head.madeUp head.name).taken ↔ name ∈ seen ++ [head.name]) := by
        intro name plain
        rw [mem_next plain fun count => (properHead.usesNumber count).not_plain, saw name plain,
          List.mem_append, List.mem_singleton]
      simp only [clashes, repeatsBeside, saw _ properHead.plain,
        inductionHypothesis sawNext properTail]

/-- If nothing is taken at first, names are made up for what is not the first of its name. -/
theorem clashes_group
    {made : Nat} {group : List Called} (proper : ∀ called ∈ group, called.Proper) :
    clashes ⟨[], made⟩ group = repeats group :=
  clashes_eq (fun _ _ => Iff.rfl) proper

theorem renamings_group
    {made : Nat} {group : List Called} (proper : ∀ called ∈ group, called.Proper) :
    renamings ⟨[], made⟩ group = madeUpAfter made (repeats group) := by
  rw [renamings_eq, clashes_group proper]

end Naming

/-! ## The groups of a program -/

/-- A struct as it is called. -/
def StructDecl.called (index : Nat) (declaration : StructDecl) : Called :=
  ⟨Program.structAddress index, declaration.name, declaration.position, numbered⟩

/-- A function as it is called. -/
def FunctionDecl.called (index : Nat) (declaration : FunctionDecl) : Called :=
  ⟨Program.functionAddress index, declaration.name, declaration.position, numbered⟩

/-- An accessor as it is called, among the members at an address. -/
def Accessor.called (address : Address) (accessor : Accessor) : Called :=
  ⟨accessor.number :: address, accessor.name, accessor.position, suffixed accessor.name⟩

/-- The accessors of the struct with an index as they are called. -/
def StructDecl.accessorsCalled (index : Nat) (declaration : StructDecl) : List Called :=
  declaration.accessors.map (Accessor.called (0 :: Program.structAddress index))

namespace Program

/-- The structs as they are called. -/
def structsCalled (program : Program) : List Called := program.structs.mapIdx StructDecl.called

/-- The functions as they are called. -/
def functionsCalled (program : Program) : List Called :=
  program.functions.mapIdx FunctionDecl.called

/-- The groups of declarations in which each name is given once: all structs, all functions, and the
accessors of each struct. -/
def groups (program : Program) : List (List Called) :=
  program.structsCalled :: program.functionsCalled ::
    program.structs.mapIdx StructDecl.accessorsCalled

/-- The declarations that are not the first of their name in their group. -/
def duplicates (program : Program) : List Called := program.groups.flatMap Called.repeats

end Program

theorem renamings_eq_called
    {alpha : Type} {address : Nat → Address} {name : alpha → String}
    {called : Nat → alpha → Called}
    (isCalled : ∀ index item, ∃ position,
      called index item = ⟨address index, name item, position, numbered⟩)
    (naming : Naming) (index : Nat) (items : List alpha) :
    renamings address naming index (items.map name) =
      naming.renamings ((items.zipIdx index).map fun (item, place) => called place item) := by
  induction items generalizing naming index with
  | nil => rfl
  | cons head tail inductionHypothesis =>
      obtain ⟨position, isHead⟩ := isCalled index head
      simp only [List.map_cons, List.zipIdx_cons, renamings, Naming.renamings, isHead,
        inductionHypothesis]

theorem Stmt.renamingsOf_eq_called
    (naming : Naming) (address : Address) (index : Nat) (members : List Stmt) :
    renamingsOf naming address index members =
      naming.renamings ((accessorsOf index members).map (Accessor.called address)) := by
  induction members generalizing naming index with
  | nil => rfl
  | cons head tail inductionHypothesis =>
      rw [renamingsOf, inductionHypothesis, accessorsOf_cons]
      cases head <;> rfl

/-! ## Proper names -/

theorem StructDecl.proper_called
    {index : Nat} {declaration : StructDecl} (written : declaration.Written) :
    (declaration.called index).Proper :=
  ⟨written.name, .numbered⟩

theorem FunctionDecl.proper_called
    {index : Nat} {declaration : FunctionDecl} (written : declaration.Written) :
    (declaration.called index).Proper :=
  ⟨written.name, .numbered⟩

theorem StructDecl.proper_accessorsCalled
    {index : Nat} {declaration : StructDecl} (written : declaration.Written) :
    ∀ called ∈ declaration.accessorsCalled index, called.Proper := by
  intro called isCalled
  obtain ⟨accessor, isAccessor, rfl⟩ := List.mem_map.mp isCalled
  obtain ⟨⟨member, number⟩, isPair, isThere⟩ := List.mem_filterMap.mp isAccessor
  have isMember := List.mem_of_getElem? (List.mk_mem_zipIdx_iff_getElem?.mp isPair)
  have isWritten := written.members member isMember
  cases member with
  | accessor name =>
      obtain rfl := Option.some.inj isThere
      exact ⟨isWritten.1, fun count => .suffixed count isWritten.1⟩
  | _ => cases isThere

namespace Program

variable {program : Program}

theorem proper_structsCalled
    (written : program.Written) : ∀ called ∈ program.structsCalled, called.Proper := by
  intro called isThere
  obtain ⟨index, isBelow, rfl⟩ := List.mem_mapIdx.mp isThere
  exact StructDecl.proper_called (written.structs _ (List.getElem_mem isBelow))

theorem proper_functionsCalled
    (written : program.Written) : ∀ called ∈ program.functionsCalled, called.Proper := by
  intro called isThere
  obtain ⟨index, isBelow, rfl⟩ := List.mem_mapIdx.mp isThere
  exact FunctionDecl.proper_called (written.functions _ (List.getElem_mem isBelow))

theorem proper_groups
    (written : program.Written) :
    ∀ group ∈ program.groups, ∀ called ∈ group, called.Proper := by
  intro group isGroup
  rcases List.mem_cons.mp isGroup with rfl | isGroup
  · exact proper_structsCalled written
  rcases List.mem_cons.mp isGroup with rfl | isGroup
  · exact proper_functionsCalled written
  obtain ⟨index, isBelow, rfl⟩ := List.mem_mapIdx.mp isGroup
  exact StructDecl.proper_accessorsCalled (written.structs _ (List.getElem_mem isBelow))

end Program

/-! ## All names that are made up -/

open Called

theorem renamings_group
    {alpha : Type} {address : Nat → Address} {name : alpha → String}
    (called : Nat → alpha → Called)
    (isCalled : ∀ index item, ∃ position,
      called index item = ⟨address index, name item, position, numbered⟩)
    (made : Nat) {items : List alpha} (proper : ∀ other ∈ items.mapIdx called, other.Proper) :
    renamings address ⟨[], made⟩ 0 (items.map name) =
      madeUpAfter made (repeats (items.mapIdx called)) := by
  rw [renamings_eq_called isCalled, ← List.mapIdx_eq_zipIdx_map]
  exact Naming.renamings_group proper

theorem StructDecl.renamingsOf_eq
    {structs : List StructDecl} (written : ∀ declaration ∈ structs, declaration.Written)
    (made index : Nat) :
    renamingsOf made index structs =
      madeUpAfter made ((structs.zipIdx index).flatMap fun (declaration, place) =>
        repeats (declaration.accessorsCalled place)) := by
  induction structs generalizing made index with
  | nil => rfl
  | cons head tail inductionHypothesis =>
      obtain ⟨writtenHead, writtenTail⟩ := List.forall_mem_cons.mp written
      have ofHead : Stmt.renamingsOf ⟨[], made⟩ (0 :: Program.structAddress index) 0 head.members =
          madeUpAfter made (repeats (head.accessorsCalled index)) := by
        rw [Stmt.renamingsOf_eq_called]
        exact Naming.renamings_group (proper_accessorsCalled writtenHead)
      have isMade : (head.accessorNaming made).made =
          made + (repeats (head.accessorsCalled index)).length := by
        rw [← length_madeUpAfter made, ← ofHead]
        exact (Stmt.length_renamingsOf ⟨[], made⟩ head.members).symm
      rw [renamingsOf, ofHead, inductionHypothesis writtenTail, isMade, ← madeUpAfter_append]
      rfl

namespace Program

variable {program : Program} {state : CheckState}

theorem reverse_madeUpNames
    (written : program.Written) :
    program.madeUpNames.reverse =
      madeUpAfter 0 (repeats program.structsCalled ++ repeats program.functionsCalled) := by
  have ofStructs : renamings structAddress ⟨[], 0⟩ 0 (program.structs.map (·.name)) =
      madeUpAfter 0 (repeats program.structsCalled) :=
    renamings_group StructDecl.called (fun _ declaration => ⟨declaration.position, rfl⟩) 0
      (proper_structsCalled written)
  have ofFunctions : renamings functionAddress ⟨[], program.structNaming.made⟩ 0
      (program.functions.map (·.name)) =
        madeUpAfter program.structNaming.made (repeats program.functionsCalled) :=
    renamings_group FunctionDecl.called (fun _ declaration => ⟨declaration.position, rfl⟩) _
      (proper_functionsCalled written)
  have isMade : program.structNaming.made = 0 + (repeats program.structsCalled).length := by
    rw [← length_madeUpAfter 0, ← ofStructs]
    exact (length_renamings structAddress ⟨[], 0⟩ 0 _).symm
  rw [madeUpNames, List.reverse_append, List.reverse_reverse, List.reverse_reverse, ofStructs,
    ofFunctions, isMade, ← madeUpAfter_append]

/-- The table of names after a check: those made up for all duplicates, numbered in order. -/
theorem Outcome.names_reverse
    (outcome : program.Outcome state) (written : program.Written) :
    state.names.reverse = madeUpAfter 0 program.duplicates := by
  have isMade : program.functionNaming.made =
      0 + (repeats program.structsCalled ++ repeats program.functionsCalled).length := by
    rw [← length_madeUpNames, ← List.length_reverse, reverse_madeUpNames written,
      length_madeUpAfter, Nat.zero_add]
  have isSplit : program.duplicates =
      (repeats program.structsCalled ++ repeats program.functionsCalled) ++
        program.structs.zipIdx.flatMap fun (declaration, place) =>
          repeats (declaration.accessorsCalled place) := by
    rw [duplicates, groups, List.flatMap_cons, List.flatMap_cons, List.append_assoc,
      List.mapIdx_eq_zipIdx_map, List.flatMap_map]
  rw [outcome.names_eq_append, List.reverse_append, List.reverse_reverse,
    reverse_madeUpNames written, memberFindings, StructDecl.renamings_checkFindingsOf,
    snd_namedStructs, StructDecl.renamingsOf_eq written.structs, isMade, ← madeUpAfter_append,
    ← isSplit]

/-! ## Every declaration has an address of its own -/

theorem spread_accessorsCalled
    (address : Address) (index : Nat) (members : List Stmt) :
    Spread Called.address address index
      ((Stmt.accessorsOf index members).map (Accessor.called address)) := by
  induction members generalizing index with
  | nil => exact Spread.nil
  | cons head tail inductionHypothesis =>
      rw [Stmt.accessorsOf_cons, List.map_append]
      refine Spread.append ?_ (inductionHypothesis (index + 1))
      cases head with
      | accessor => exact Apart.alone rfl
      | _ => exact Apart.nil

theorem nodup_called
    {alpha : Type} {address : Nat → Address} (called : Nat → alpha → Called)
    (isCalled : ∀ index item, (called index item).address = address index)
    (injective : Function.Injective address) (items : List alpha) :
    ((items.mapIdx called).map Called.address).Nodup := by
  have areAddresses : (items.mapIdx called).map Called.address =
      (List.range items.length).map address := by
    refine List.ext_getElem (by simp) fun index _ _ => ?_
    simp [isCalled]
  rw [areAddresses]
  exact List.nodup_range.map injective

theorem injective_address
    (side : Nat) : Function.Injective fun index : Nat => ([index, side] : Address) :=
  fun _ _ same => (List.cons.inj same).1

theorem length_of_mem_accessorsCalled
    {called : Called}
    (isThere : called ∈ (program.structs.mapIdx StructDecl.accessorsCalled).flatten) :
    called.address.length = 4 := by
  obtain ⟨group, isGroup, isCalled⟩ := List.mem_flatten.mp isThere
  obtain ⟨index, isBelow, rfl⟩ := List.mem_mapIdx.mp isGroup
  obtain ⟨accessor, -, rfl⟩ := List.mem_map.mp isCalled
  rfl

/-- No two of the declarations that get names are at one address. -/
theorem nodup_groups
    (program : Program) : (program.groups.flatten.map Called.address).Nodup := by
  have structs : (program.structsCalled.map Called.address).Nodup :=
    nodup_called StructDecl.called (fun _ _ => rfl) (injective_address 0) program.structs
  have functions : (program.functionsCalled.map Called.address).Nodup :=
    nodup_called FunctionDecl.called (fun _ _ => rfl) (injective_address 1) program.functions
  have accessors : Spread Called.address [0] 0
      (program.structs.mapIdx StructDecl.accessorsCalled).flatten :=
    Spread.flatten_mapIdx program.structs fun index declaration => by
      rw [Nat.zero_add]
      exact (Spread.of_child (spread_accessorsCalled _ 0 declaration.members).apart).apart
  rw [groups, List.flatten_cons, List.flatten_cons, List.Nodup, List.pairwise_map]
  refine List.pairwise_append.mpr ⟨List.pairwise_map.mp structs, List.pairwise_append.mpr
    ⟨List.pairwise_map.mp functions, List.pairwise_map.mp accessors.distinct, ?_⟩, ?_⟩
  · intro function isFunction accessor isAccessor same
    obtain ⟨index, isBelow, rfl⟩ := List.mem_mapIdx.mp isFunction
    have isDeep := length_of_mem_accessorsCalled isAccessor
    rw [← same] at isDeep
    cases isDeep
  · intro struct isStruct other isOther same
    obtain ⟨index, isBelow, rfl⟩ := List.mem_mapIdx.mp isStruct
    rcases List.mem_append.mp isOther with isFunction | isAccessor
    · obtain ⟨otherIndex, isOtherBelow, rfl⟩ := List.mem_mapIdx.mp isFunction
      simp [StructDecl.called, FunctionDecl.called, structAddress, functionAddress] at same
    · have isDeep := length_of_mem_accessorsCalled isAccessor
      rw [← same] at isDeep
      cases isDeep

end Program

end StructLang
