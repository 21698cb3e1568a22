import StructLang.Proofs.Check.Outcome

/-!
# The accessors of a struct

Each accessor among the members of a struct makes one function entry in the scope of the struct, in
the order of the members. The entry has the name that the tables give to the accessor. Which names
were made up for the accessors of one struct does not depend on what stands in the tables for
others.

- `Stmt.accessorEntriesOf_eq` : the function entries of a struct, one for each accessor.
- `StructDecl.exists_renamings_append` : the names that are made up for the accessors of one struct.
- `Outcome.members_eq` : what the scope of a struct holds after a check.
-/

namespace StructLang

open Check

/-- An accessor of a struct: which of the members it is, and what it says. -/
structure Accessor where
  number : Nat
  name : String
  type : Ty
  parameters : List VariableDecl
  position : Position
  deriving DecidableEq, Repr

namespace Stmt

/-- The accessor that the member with a number is, if it is one. -/
def accessor? (number : Nat) : Stmt → Option Accessor
  | .accessor name type parameters _ _ _ position =>
      some ⟨number, name, type, parameters, position⟩
  | _ => none

/-- The accessors among some members, numbered from an index on. -/
def accessorsOf (index : Nat) (members : List Stmt) : List Accessor :=
  (members.zipIdx index).filterMap fun (member, number) => member.accessor? number

theorem accessorsOf_cons
    (index : Nat) (head : Stmt) (tail : List Stmt) :
    accessorsOf index (head :: tail) =
      (head.accessor? index).toList ++ accessorsOf (index + 1) tail := by
  simp only [accessorsOf, List.zipIdx_cons, List.filterMap_cons]
  cases head.accessor? index <;> rfl

/-- Tables that agree on the members of a struct give them the same names. -/
theorem NamedAllIn.congr
    {names others : List (Address × String)} {naming : Naming} {address : Address} {index : Nat}
    {members : List Stmt} (named : NamedAllIn names naming address index members)
    (same : ∀ number, others.lookup (number :: address) = names.lookup (number :: address)) :
    NamedAllIn others naming address index members := by
  induction members generalizing naming index with
  | nil => trivial
  | cons head tail inductionHypothesis =>
      refine ⟨?_, inductionHypothesis named.2⟩
      cases head with
      | accessor =>
          rw [NamedIn, same]
          exact named.1
      | _ => trivial

/-- The function entries of some members are those of the accessors among them. -/
theorem accessorEntriesOf_eq
    {names : List (Address × String)} {naming : Naming} {address : Address} {index next : Nat}
    {members : List Stmt} (named : NamedAllIn names naming address index members) :
    accessorEntriesOf next naming members =
      (accessorsOf index members).mapIdx fun place accessor =>
        .ofFunction ((names.lookup (accessor.number :: address)).getD accessor.name)
          accessor.type accessor.parameters (next + place) none := by
  induction members generalizing naming index next with
  | nil => rfl
  | cons head tail inductionHypothesis =>
      rw [accessorEntriesOf, accessorsOf_cons, inductionHypothesis named.2]
      cases head with
      | accessor name =>
          have isName : (names.lookup (index :: address)).getD name =
              naming.known (suffixed name) name := named.1
          simp [accessorEntries, accessor?, isName, Nat.add_assoc, Nat.add_comm 1]
      | _ => rfl

theorem isFunction_of_mem_accessorEntriesOf
    {next : ScopeId} {naming : Naming} {members : List Stmt} {entry : Entry}
    (isThere : entry ∈ accessorEntriesOf next naming members) :
    entry.key.kind = .functions := by
  induction members generalizing next naming with
  | nil => cases isThere
  | cons head tail inductionHypothesis =>
      rcases List.mem_append.mp isThere with isHead | inTail
      · cases head with
        | accessor => rw [List.mem_singleton.mp isHead]; rfl
        | _ => cases isHead
      · exact inductionHypothesis inTail

end Stmt

theorem Scope.HoldsMembers.functions
    {scope : Scope} {fields : Region} {accessors : List Entry}
    (holds : scope.HoldsMembers fields accessors)
    (areFunctions : ∀ entry ∈ accessors, entry.key.kind = .functions) :
    scope.entries.filter (·.key.kind = .functions) = accessors := by
  have areOthers (entry : Entry) : (decide (entry.key.kind = .functions) &&
      decide (entry.key.kind ≠ .vars)) = decide (entry.key.kind = .functions) := by
    cases entry.key.kind <;> rfl
  calc
    scope.entries.filter (·.key.kind = .functions) =
        (scope.entries.filter (·.key.kind ≠ .vars)).filter (·.key.kind = .functions) := by
      rw [List.filter_filter]
      exact (List.filter_congr fun entry _ => areOthers entry).symm
    _ = accessors := by
      rw [holds.others]
      exact List.filter_eq_self.mpr fun entry isThere => decide_eq_true (areFunctions entry isThere)

namespace StructDecl

/-- The accessors of a struct, in order. -/
def accessors (declaration : StructDecl) : List Accessor :=
  Stmt.accessorsOf 0 declaration.members

/-! ## The names that are made up for the accessors of structs -/

theorem renamingsOf_append
    (made index : Nat) (earlier later : List StructDecl) :
    renamingsOf made index (earlier ++ later) =
      renamingsOf made index earlier ++
        renamingsOf (madeAfter made earlier) (index + earlier.length) later := by
  induction earlier generalizing made index with
  | nil => rfl
  | cons head tail inductionHypothesis =>
      rw [List.cons_append, renamingsOf, renamingsOf, inductionHypothesis, List.append_assoc,
        List.length_cons, Nat.add_assoc, Nat.add_comm 1]
      rfl

/-- Among the names that are made up for structs, those for the accessors of one struct stand
together. -/
theorem exists_renamings_append
    (made : Nat) {declarations : List StructDecl} {place : Nat} {declaration : StructDecl}
    (isThere : declarations[place]? = some declaration) :
    ∃ before after,
      renamingsOf made 0 declarations =
        before ++ (Stmt.renamingsOf ⟨[], madeAfter made (declarations.take place)⟩
          (0 :: Program.structAddress place) 0 declaration.members ++ after) ∧
      ∀ pair ∈ before ++ after, ∀ number, pair.1 ≠ number :: 0 :: Program.structAddress place := by
  obtain ⟨isBelow, rfl⟩ := List.getElem?_eq_some_iff.mp isThere
  have isSplit : declarations.take place ++ declarations[place] :: declarations.drop (place + 1) =
      declarations := by
    rw [← List.drop_eq_getElem_cons isBelow, List.take_append_drop]
  have isLength : (declarations.take place).length = place := by
    rw [List.length_take, Nat.min_eq_left (Nat.le_of_lt isBelow)]
  have whole := renamingsOf_append made 0 (declarations.take place)
    (declarations[place] :: declarations.drop (place + 1))
  rw [isSplit, isLength, Nat.zero_add, renamingsOf] at whole
  refine ⟨_, _, whole, fun pair isPair number same => ?_⟩
  have isOther : ∃ other otherPlace, otherPlace ≠ place ∧
      pair.1 = other :: 0 :: Program.structAddress otherPlace := by
    rcases List.mem_append.mp isPair with isEarlier | isLater
    · obtain ⟨other, otherPlace, -, isBefore, isAddress⟩ := fst_of_mem_renamingsOf isEarlier
      rw [isLength, Nat.zero_add] at isBefore
      exact ⟨other, otherPlace, Nat.ne_of_lt isBefore, isAddress⟩
    · obtain ⟨other, otherPlace, isBehind, -, isAddress⟩ := fst_of_mem_renamingsOf isLater
      exact ⟨other, otherPlace, Nat.ne_of_gt isBehind, isAddress⟩
  obtain ⟨other, otherPlace, different, isAddress⟩ := isOther
  rw [isAddress] at same
  simp [Program.structAddress] at same
  exact different same.2

end StructDecl

/-! ## What a check leaves in the scopes of structs -/

namespace Program

variable {program : Program} {state : CheckState}

theorem length_of_mem_madeUpNames
    {pair : Address × String} (isThere : pair ∈ program.madeUpNames) : pair.1.length = 2 := by
  rcases List.mem_append.mp isThere with isFunction | isStruct
  all_goals
    obtain ⟨index, -, isAddress⟩ := fst_mem_renamings (List.mem_reverse.mp (by assumption))
    rw [isAddress]
    rfl

namespace Outcome

variable (outcome : program.Outcome state)

include outcome

/-- The table of names after a check gives the accessors of a struct the names that their naming
gave them. -/
theorem namedAllIn
    {index : Nat} {declaration : StructDecl}
    (isThere : program.structs[index]? = some declaration) :
    Stmt.NamedAllIn state.names ⟨[], program.madeBefore index⟩ (0 :: structAddress index) 0
      declaration.members := by
  obtain ⟨before, after, isSplit, elsewhere⟩ :=
    StructDecl.exists_renamings_append program.functionNaming.made isThere
  have isTable : state.names = after.reverse ++
      ((Stmt.renamingsOf ⟨[], program.madeBefore index⟩ (0 :: structAddress index) 0
        declaration.members).reverse ++ (before.reverse ++ program.madeUpNames)) := by
    rw [outcome.names_eq_append, memberFindings, StructDecl.renamings_checkFindingsOf,
      snd_namedStructs, isSplit]
    simp [madeBefore]
  have unlisted (number : Nat) :
      (before.reverse ++ program.madeUpNames).lookup (number :: 0 :: structAddress index) =
        none := by
    refine List.lookup_eq_none_iff.mpr fun pair isPair => bne_iff_ne.mpr fun same => ?_
    rcases List.mem_append.mp isPair with isBefore | isMadeUp
    · exact elsewhere pair (List.mem_append_left _ (List.mem_reverse.mp isBefore)) number same.symm
    · have isShort := length_of_mem_madeUpNames isMadeUp
      rw [← same] at isShort
      cases isShort
  refine (Stmt.namedAllIn_renamingsOf declaration.members rfl fun number _ =>
    unlisted number).congr fun number => ?_
  rw [isTable]
  exact lookup_append_of_notMem fun pair isAfter =>
    elsewhere pair (List.mem_append_right _ (List.mem_reverse.mp isAfter)) number

/-- After a check the scope of a struct holds its fields and an entry for each of its accessors. The
scopes of those are numbered in order; each holds the parameters of its accessor and lies in the
scope of the struct. -/
theorem members_eq
    {index : Nat} {declaration : StructDecl}
    (isThere : program.structs[index]? = some declaration) :
    ∃ next,
      (state.scopes.entries (index + 1)).filter (·.key.kind = .vars) =
        declaration.fields.entries ∧
      (state.scopes.entries (index + 1)).filter (·.key.kind = .functions) =
        declaration.accessors.mapIdx (fun place accessor =>
          .ofFunction (state.nameAt (accessor.number :: 0 :: structAddress index) accessor.name)
            accessor.type accessor.parameters (next + place) none) ∧
      ∀ place accessor, declaration.accessors[place]? = some accessor →
        state.scopes.scopes[next + place]? =
          some ⟨Region.entries accessor.parameters, some (index + 1)⟩ := by
  obtain ⟨store, isStore, finished⟩ := outcome.finished
  obtain ⟨held, isFound, ⟨next, holds⟩, bound, -⟩ := finished.structs index declaration isThere
  have isHeld : state.scopes.entries (index + 1) = held := by
    rw [isStore]
    change store.entries (index + 1) = held
    simp [ScopeStore.entries, isFound]
  have areFunctions :=
    holds.functions fun entry => Stmt.isFunction_of_mem_accessorEntriesOf
  rw [Stmt.accessorEntriesOf_eq (outcome.namedAllIn isThere)] at areFunctions
  refine ⟨next, isHeld ▸ holds.vars, isHeld ▸ areFunctions, fun place accessor isAccessor => ?_⟩
  obtain ⟨isBelow, rfl⟩ := List.getElem?_eq_some_iff.mp isAccessor
  have isEntry : .ofFunction
      (state.nameAt (declaration.accessors[place].number :: 0 :: structAddress index)
        declaration.accessors[place].name)
      declaration.accessors[place].type declaration.accessors[place].parameters (next + place)
      none ∈ held.filter (·.key.kind = .functions) :=
    areFunctions ▸ List.mem_mapIdx.mpr ⟨place, isBelow, rfl⟩
  rw [isStore]
  exact bound _ _ _ _ none (List.mem_of_mem_filter isEntry)

end Outcome

end Program

end StructLang
