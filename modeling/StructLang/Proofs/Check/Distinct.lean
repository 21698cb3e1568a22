import StructLang.Proofs.Check.Meanings
import StructLang.Proofs.WellFormed

/-!
# Programs with distinct names

If no two structs share a name and no two functions do, then all of them are known under the names
that they were given, and each is found under its name in the outermost scope.
-/

namespace StructLang

namespace Program

variable {program : Program} {name : String}

/-- No two structs share a name and no two functions do. -/
structure DistinctNames (program : Program) : Prop where
  structs : (program.structs.map (·.name)).Nodup
  functions : (program.functions.map (·.name)).Nodup

theorem NamesApart.distinct
    (names : program.NamesApart) : program.DistinctNames :=
  ⟨names.structs, names.functions⟩

theorem structNaming_of_distinct
    (distinct : (program.structs.map (·.name)).Nodup) :
    program.structNaming = ⟨program.structs.map (·.name), 0⟩ := by
  rw [structNaming, Naming.afterAll_of_distinct distinct fun _ _ => List.not_mem_nil]
  rfl

theorem taken_structNaming
    (distinct : (program.structs.map (·.name)).Nodup) :
    program.structNaming.taken = program.structs.map (·.name) := by
  rw [structNaming_of_distinct distinct]

theorem taken_functionNaming
    (distinct : (program.functions.map (·.name)).Nodup) :
    program.functionNaming.taken = program.functions.map (·.name) := by
  rw [functionNaming, Naming.afterAll_of_distinct distinct fun _ _ => List.not_mem_nil]
  exact List.nil_append _

namespace DistinctNames

variable (names : program.DistinctNames)

include names

/-! ## Entries -/

theorem isSome_struct :
    (program.entries.find? (·.key = ⟨.structs, name⟩)).isSome ↔
      name ∈ program.structs.map (·.name) := by
  rw [entries, StructLang.isSome_struct program.length_functionNaming,
    taken_structNaming names.structs]

theorem isSome_function :
    (program.entries.find? (·.key = ⟨.functions, name⟩)).isSome ↔
      name ∈ program.functions.map (·.name) := by
  rw [entries, StructLang.isSome_function program.length_functionNaming,
    taken_functionNaming names.functions]

theorem nodup_keys : (program.entries.map Entry.key).Nodup := by
  apply nodup_keys_entries
  · rw [taken_structNaming names.structs]
    exact names.structs
  · rw [taken_functionNaming names.functions]
    exact names.functions

/-- A struct is found under its name in the outermost scope. -/
theorem find?_struct
    {index : Nat} {declaration : StructDecl}
    (isThere : program.structs[index]? = some declaration) :
    program.entries.find? (·.key = ⟨.structs, declaration.name⟩) =
      some (.ofStruct declaration.name (index + 1)) := by
  have isName : program.structNaming.taken[index]? = some declaration.name := by
    rw [taken_structNaming names.structs, List.getElem?_map, isThere, Option.map_some]
  exact find?_key_of_mem names.nodup_keys (mem_entries_struct.mpr ⟨index, isName, rfl⟩)

/-- A function is found under its name in the outermost scope. -/
theorem find?_function
    {index : Nat} {declaration : FunctionDecl}
    (isThere : program.functions[index]? = some declaration) :
    program.entries.find? (·.key = ⟨.functions, declaration.name⟩) =
      some (.ofFunction declaration.name declaration.result declaration.parameters
        (program.structs.length + 1 + index) (some (functionAddress index))) := by
  have isName : program.functionNaming.taken[index]? = some declaration.name := by
    rw [taken_functionNaming names.functions, List.getElem?_map, isThere, Option.map_some]
  exact find?_key_of_mem names.nodup_keys (mem_entries_function isName isThere)

/-! ## What names and members mean -/

/-- A name that no region declares means the function of that name. -/
theorem name_eq_of_function
    {regions : List Region} {declaration : FunctionDecl}
    (isThere : declaration ∈ program.functions)
    (noVariable : Region.nearest? regions declaration.name = none) :
    program.signature.name regions declaration.name =
      .type (.fptr (declaration.parameters.map (·.type)) declaration.result) := by
  obtain ⟨index, isIndex⟩ := List.mem_iff_getElem?.mp isThere
  have isEntry : Signature.entry? program.signature ⟨.functions, declaration.name⟩ = _ :=
    names.find?_function isIndex
  rw [Signature.name, noVariable]
  dsimp only
  rw [isEntry]
  rfl

/-- A name that neither a region nor a function declares is not declared. -/
theorem name_eq_of_missing
    {regions : List Region} (notFunction : name ∉ program.functions.map (·.name))
    (noVariable : Region.nearest? regions name = none) :
    program.signature.name regions name = .fault .variableNotDeclared [name] := by
  have isEntry : Signature.entry? program.signature ⟨.functions, name⟩ = none := by
    rw [← Option.not_isSome_iff_eq_none]
    exact fun isSome => notFunction (names.isSome_function.mp isSome)
  rw [Signature.name, noVariable]
  dsimp only
  rw [isEntry]

/-- A member of a declared struct is its field. -/
theorem member_eq_of_struct
    {declaration : StructDecl} (isThere : declaration ∈ program.structs) (called : String) :
    program.signature.member (.struct declaration.name) called =
      match declaration.fields.declarationOf? called with
      | some field => .type field.type
      | none => .fault .structMemberNotFound [declaration.name, called] := by
  obtain ⟨index, isIndex⟩ := List.mem_iff_getElem?.mp isThere
  have isEntry : Signature.entry? program.signature ⟨.structs, declaration.name⟩ = _ :=
    names.find?_struct isIndex
  have isFields : program.signature.fields (index + 1) = declaration.fields := by
    change (program.structs[index]?.map StructDecl.fields).getD [] = _
    rw [isIndex]
    rfl
  rw [Signature.member, isEntry]
  dsimp only
  cases isField : declaration.fields.declarationOf? called <;> simp only [isFields, isField]

theorem member_eq_of_missing
    (notStruct : name ∉ program.structs.map (·.name)) (called : String) :
    program.signature.member (.struct name) called = .fault .structNotDeclared [name] := by
  have isEntry : Signature.entry? program.signature ⟨.structs, name⟩ = none := by
    rw [← Option.not_isSome_iff_eq_none]
    exact fun isSome => notStruct (names.isSome_struct.mp isSome)
  rw [Signature.member, isEntry]

/-! ## The containment graph -/

theorem namedStructs_eq :
    program.namedStructs =
      program.structs.map fun declaration => (declaration.name, declaration) := by
  rw [namedStructs, taken_structNaming names.structs, List.zip, List.zipWith_map_left,
    List.zipWith_self]

theorem arrow_iff
    (part whole : String) :
    program.containment.Arrow part whole ↔ program.IsPartOf part whole := by
  simp only [arrow_containment, names.namedStructs_eq, List.mem_map, exists_exists_and_eq_and,
    IsPartOf]

theorem isAncestor_iff
    (name : String) :
    program.containment.isAncestor name name = true ↔
      Relation.TransGen program.IsPartOf name name := by
  have sameArrows : program.containment.Arrow = program.IsPartOf := by
    funext part whole
    exact propext (names.arrow_iff part whole)
  rw [← sameArrows]
  exact Containment.isAncestor_iff name name

/-! ## Results -/

theorem lost_eq_nil
    {address : Address} {declaration : FunctionDecl}
    (isDeclared : ∀ name, declaration.result = .struct name →
      name ∈ program.structs.map (·.name)) :
    declaration.lost program.entries address = [] := by
  rw [List.eq_nil_iff_forall_not_mem]
  intro place isLost
  obtain ⟨-, name, isResult, isMissing⟩ := FunctionDecl.mem_lost.mp isLost
  have isFound := names.isSome_struct.mpr (isDeclared name isResult)
  rw [isMissing] at isFound
  cases isFound

theorem lostOf_eq_nil
    {index : Nat} {functions : List FunctionDecl}
    (areDeclared : ∀ declaration ∈ functions, ∀ name, declaration.result = .struct name →
      name ∈ program.structs.map (·.name)) :
    FunctionDecl.lostOf program.entries index functions = [] := by
  rw [List.eq_nil_iff_forall_not_mem]
  intro place isLost
  obtain ⟨number, declaration, isThere, isHere⟩ := FunctionDecl.mem_lostOf.mp isLost
  rw [names.lost_eq_nil (areDeclared declaration (List.mem_of_getElem? isThere))] at isHere
  cases isHere

end DistinctNames

end Program

end StructLang
