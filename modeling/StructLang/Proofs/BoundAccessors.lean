import StructLang.Proofs.DeclaredNames

/-!
# The accessors in the scope of a struct

The members of a struct are declared first, and then each accessor is bound to the entry that has
the name under which it is known. However many accessors share a name, each has an entry of its own,
with a scope of its own for its parameters.

- `Outcome.find?_function` : each entry of an accessor is found under its key.
- `accessors_bound` : the entries of accessors, and what their scopes hold.
-/

namespace StructLang.Program

open Check

variable {program : Program} {state : CheckState}

/-- Among some entries of which no two of a kind have the same key, each one of the kind is found
under its key. -/
theorem find?_key_of_mem_filter
    {entries : List Entry} {kind : EntryKind}
    (distinct : ((entries.filter (·.key.kind = kind)).map Entry.key).Nodup) {entry : Entry}
    (isThere : entry ∈ entries.filter (·.key.kind = kind)) :
    entries.find? (·.key = entry.key) = some entry := by
  have isKind : entry.key.kind = kind := of_decide_eq_true (List.mem_filter.mp isThere).2
  have isFound := find?_key_of_mem distinct isThere
  rw [List.find?_filter] at isFound
  rw [← isFound]
  congr 1
  funext other
  by_cases isKey : other.key = entry.key <;> simp [isKey, isKind]

/-- Every accessor of a struct is found in the scope of the struct under the name by which it is
known, whichever accessors share its name. -/
theorem Outcome.find?_function
    (outcome : program.Outcome state) (written : program.Written) {index : Nat}
    {declaration : StructDecl} (isThere : program.structs[index]? = some declaration)
    {entry : Entry}
    (isEntry : entry ∈ (state.scopes.entries (index + 1)).filter (·.key.kind = .functions)) :
    state.scopes.find? (index + 1) entry.key = some entry := by
  obtain ⟨isBelow, rfl⟩ := List.getElem?_eq_some_iff.mp isThere
  have isGroup : program.structs[index].accessorsCalled index ∈ program.groups :=
    .tail _ (.tail _ (List.mem_mapIdx.mpr ⟨index, isBelow, rfl⟩))
  have areKeys := (outcome.installs.structs index _ isThere).2
  have distinct : (((state.scopes.entries (index + 1)).filter
      (·.key.kind = .functions)).map Entry.key).Nodup := by
    have distinctNames := outcome.nodup_known written isGroup
    rw [areKeys]
    rw [StructDecl.accessorsCalled, List.map_map] at distinctNames
    have isKey : (fun accessor : Accessor => Key.mk .functions
        (state.nameAt (accessor.number :: 0 :: structAddress index) accessor.name)) =
          Key.mk .functions ∘ fun accessor =>
            state.nameAt (accessor.number :: 0 :: structAddress index) accessor.name := rfl
    rw [isKey, ← List.map_map]
    exact distinctNames.map fun _ _ same => (Key.mk.inj same).2
  have isFound := find?_key_of_mem_filter distinct isEntry
  rw [ScopeStore.entries] at isFound
  rw [ScopeStore.find?]
  cases isScope : state.scopes.scopes[index + 1]? with
  | none => rw [isScope] at isFound; cases isFound
  | some held => rw [isScope] at isFound; exact isFound

/-- The check of a program from a source text completes. After it the outermost scope has an entry
for each struct, and in the scope of the struct there is one function entry for each of its
accessors, in their order and no others. The entry has the name under which the accessor is known,
under which it is also found, and the type and the parameters of the accessor. It has a scope of its
own, which the scope of the struct encloses, and which holds the first of the parameters of the
accessor with each name and nothing else. -/
theorem accessors_bound
    {source : String} (isRead : Program.ofSource source = .ok program) :
    ∃ state, program.checked = .ok () state ∧
      ∀ index declaration, program.structs[index]? = some declaration →
        .ofStruct (state.nameAt (structAddress index) declaration.name) (index + 1) ∈
            state.scopes.entries 0 ∧
        (∃ next : ScopeId,
          (state.scopes.entries (index + 1)).filter (·.key.kind = .functions) =
            declaration.accessors.mapIdx (fun place accessor =>
              .ofFunction
                (state.nameAt (accessor.number :: 0 :: structAddress index) accessor.name)
                accessor.type accessor.parameters (next + place) none) ∧
          ∀ place accessor, declaration.accessors[place]? = some accessor →
            state.scopes.scopes[next + place]? =
              some ⟨Region.entries accessor.parameters, some (index + 1)⟩) ∧
        ∀ entry ∈ (state.scopes.entries (index + 1)).filter (·.key.kind = .functions),
          state.scopes.find? (index + 1) entry.key = some entry := by
  have written := written_of_ofSource isRead
  obtain ⟨state, isChecked⟩ := checked_of_written written
  have outcome := outcome_of_checked isChecked
  refine ⟨state, isChecked, fun index declaration isThere => ⟨?_, ?_, ?_⟩⟩
  · obtain ⟨isBelow, rfl⟩ := List.getElem?_eq_some_iff.mp isThere
    rw [outcome.installs.entries]
    exact List.mem_append_left _ (List.mem_mapIdx.mpr ⟨index, isBelow, rfl⟩)
  · obtain ⟨next, -, areAccessors, areBound⟩ := outcome.members_eq isThere
    exact ⟨next, areAccessors, areBound⟩
  · exact fun entry => outcome.find?_function written isThere

/-- Of two accessors of one name each has its own entry, with its own type and parameters. -/
theorem accessors_bound_sharedNames :
    Program.ofSource sharedNamesSource = .ok sharedNames ∧
      ∃ state, sharedNames.checked = .ok () state ∧
        ∃ next : ScopeId,
          (state.scopes.entries 1).filter (·.key.kind = .functions) =
            [.ofFunction (state.nameAt [0, 0, 0, 0] "x") .int
                [⟨"a", .int, ⟨1, 16⟩⟩, ⟨"a", .bool, ⟨1, 22⟩⟩] next none,
              .ofFunction (state.nameAt [1, 0, 0, 0] "x") .bool [] (next + 1) none] ∧
          state.scopes.scopes[next]? = some ⟨[.ofVariable "a" .int], some 1⟩ ∧
          state.scopes.scopes[next + 1]? = some ⟨[], some 1⟩ := by
  obtain ⟨state, isChecked, bound⟩ := accessors_bound ofSource_sharedNames
  obtain ⟨-, ⟨next, areAccessors, areBound⟩, -⟩ := bound 0 _ rfl
  exact ⟨ofSource_sharedNames, state, isChecked, next, areAccessors, areBound 0 _ rfl,
    areBound 1 _ rfl⟩

end StructLang.Program
