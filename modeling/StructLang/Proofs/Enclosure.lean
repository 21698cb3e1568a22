import StructLang.Proofs.Check.Nesting
import StructLang.Proofs.FromSource

/-!
# Where the links between scopes lead

At every point of a check at which a scope is entered, the links from the innermost scope lead
through scopes of the stack, in their order, to the outermost one, and none comes twice. So a
lookup has no more steps than the stack has scopes. When the check completes, the scope of a struct
is one link away from the outermost one, and those of functions and accessors are two.
-/

namespace StructLang

open ScopeStore

namespace Program

variable {program : Program} {store : ScopeStore}

theorem Finished.entries_eq
    (finished : program.Finished store) : store.entries 0 = program.entries := by
  simp [ScopeStore.entries, finished.inside.fits.rooted.found, signature]

theorem Finished.leads_root
    (finished : program.Finished store) : store.Leads 0 [0] := by
  have rooted := finished.inside.fits.rooted
  exact .ends rooted.size_pos (by simp [enclosing?, rooted.found])

/-- The scope of a struct has no structs inside, and those of its accessors lie in it. -/
theorem Finished.entries_struct
    (finished : program.Finished store) {index : Nat} (isThere : index < program.structs.length) :
    Stmt.AccessorsBound store (index + 1) (store.entries (index + 1)) ∧
      ∀ name inner, .ofStruct name inner ∉ store.entries (index + 1) := by
  obtain ⟨held, isFound, -, bound, noStruct⟩ :=
    finished.structs index _ (List.getElem?_eq_getElem isThere)
  have isHeld : store.entries (index + 1) = held := by simp [ScopeStore.entries, isFound]
  rw [isHeld]
  exact ⟨bound, noStruct⟩

theorem Finished.leads_struct
    (finished : program.Finished store) {index : Nat} (isThere : index < program.structs.length) :
    store.Leads (index + 1) [index + 1, 0] := by
  obtain ⟨held, isFound, -⟩ := finished.structs index _ (List.getElem?_eq_getElem isThere)
  exact .goesOn (by simp [enclosing?, isFound]) finished.leads_root

theorem Finished.leads_accessor
    (finished : program.Finished store) {index : Nat} (isThere : index < program.structs.length)
    {name : String} {result : Ty} {parameters : List VariableDecl} {own : ScopeId}
    {address? : Option Address}
    (isEntry : .ofFunction name result parameters own address? ∈ store.entries (index + 1)) :
    store.Leads own [own, index + 1, 0] := by
  have isFound := (finished.entries_struct isThere).1 name result parameters own address? isEntry
  exact .goesOn (by simp [enclosing?, isFound]) (finished.leads_struct isThere)

/-- Between the scope of a function and the outermost one lies one more scope. -/
theorem Finished.leads_function
    (finished : program.Finished store) {index : Nat} {declaration : FunctionDecl}
    (isThere : program.functions[index]? = some declaration) :
    ∃ between, store.Leads (program.structs.length + 1 + index)
      [program.structs.length + 1 + index, between, 0] := by
  obtain ⟨between, isFound, isOuter⟩ := finished.functions index declaration isThere
  refine ⟨between, .goesOn ?_ (.goesOn ?_ finished.leads_root)⟩
  · simp [enclosing?, isFound]
  · simp [enclosing?, isOuter]

/-- All links that are left when a check completes. -/
theorem leads_of_checked
    {final : CheckState} (completed : program.checked = .ok () final) :
    final.root? = some 0 ∧
      (∀ name scope, .ofStruct name scope ∈ final.scopes.entries 0 →
        final.scopes.Leads scope [scope, 0] ∧
          ∀ name result parameters own address?,
            .ofFunction name result parameters own address? ∈ final.scopes.entries scope →
              final.scopes.Leads own [own, scope, 0]) ∧
      ∀ name result parameters scope address?,
        .ofFunction name result parameters scope address? ∈ final.scopes.entries 0 →
          ∃ between, final.scopes.Leads scope [scope, between, 0] := by
  obtain ⟨store, rfl, finished⟩ := (ends_check program).of_completed completed
  refine ⟨CheckState.notingAll_root? started program.findings, ?_, ?_⟩
  · intro name scope isStruct
    change .ofStruct name scope ∈ store.entries 0 at isStruct
    rw [finished.entries_eq] at isStruct
    obtain ⟨isPositive, isBelow⟩ := scope_of_mem_entries isStruct
    obtain ⟨index, rfl⟩ := Nat.exists_eq_add_one.mpr isPositive
    constructor
    · exact (finished.leads_struct isBelow).pop
    · intro member result parameters own address? isEntry
      exact (finished.leads_accessor isBelow isEntry).pop
  · intro name result parameters scope address? isFunction
    change .ofFunction name result parameters scope address? ∈ store.entries 0 at isFunction
    rw [finished.entries_eq] at isFunction
    obtain ⟨index, declaration, isThere, rfl, -⟩ := exists_function_of_mem_entries isFunction
    obtain ⟨between, leads⟩ := finished.leads_function isThere
    exact ⟨between, leads.pop⟩

/-- After a check has forgotten all that was found before, it takes a course. Wherever the stack is
not empty on the way, the links from its innermost scope lead through scopes of the stack, in their
order and none of them twice, to the outermost one, and lookups go this way. If the check
completes, the scopes of structs are one link away from the outermost scope, those of functions
are two, and those of accessors are two by way of their struct. -/
theorem links_lead_to_root
    (program : Program) :
    (program.check = Check.reset >>= fun _ => program.course.run) ∧
      (∀ point, program.course.Passes .initial point → point.scopes.stack ≠ [] →
        ∃ links, point.scopes.Passage links ∧ links.Nodup ∧ links.getLast? = point.root? ∧
          links.length ≤ point.scopes.depth ∧
          ∀ key, point.scopes.lookup? key = links.findSome? (point.scopes.find? · key)) ∧
      ∀ final, program.checked = .ok () final → ∃ root, final.root? = some root ∧
        (∀ name scope, .ofStruct name scope ∈ final.scopes.entries root →
          final.scopes.Leads scope [scope, root] ∧
            ∀ name result parameters own address?,
              .ofFunction name result parameters own address? ∈ final.scopes.entries scope →
                final.scopes.Leads own [own, scope, root]) ∧
        ∀ name result parameters scope address?,
          .ofFunction name result parameters scope address? ∈ final.scopes.entries root →
            ∃ between, final.scopes.Leads scope [scope, between, root] := by
  refine ⟨program.check_eq, ?_, ?_⟩
  · intro point passes notEmpty
    obtain ⟨links, passage, isRoot⟩ := (program.nests_of_passes passes).resolve_left notEmpty
    exact ⟨links, passage, passage.nodup, isRoot, passage.length_le_depth, passage.lookup?_eq⟩
  · intro final completed
    obtain ⟨isRoot, structs, functions⟩ := leads_of_checked completed
    exact ⟨0, isRoot, structs, functions⟩

end Program

end StructLang
