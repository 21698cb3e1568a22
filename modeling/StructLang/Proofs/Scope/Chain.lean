import StructLang.Proofs.Scope.Region

/-!
# Chains of scopes

A chain of scopes mirrors nested regions if each scope holds the first declarations of its region
and nothing else, is enclosed in the next one, and ends with the outermost scope, which holds no
variables. Looking a name up along the chain is looking it up in the regions.
-/

namespace StructLang

open ScopeStore

/-- A chain of scopes, the innermost first, shows nested regions. The outermost scope is the first
one that was made. -/
inductive Mirrors (store : ScopeStore) : List ScopeId → List Region → Prop
  | root {entries : List Entry} :
      store.scopes[0]? = some ⟨entries, none⟩ →
      (∀ entry ∈ entries, entry.key.kind ≠ .vars) →
      Mirrors store [0] []
  | within {scope outer : ScopeId} {chain : List ScopeId} {region : Region}
      {regions : List Region} :
      store.scopes[scope]? = some ⟨region.entries, some outer⟩ →
      Mirrors store (outer :: chain) regions →
      Mirrors store (scope :: outer :: chain) (region :: regions)

namespace Mirrors

variable {store other : ScopeStore} {chain : List ScopeId} {regions : List Region}

theorem of_same
    (mirrors : Mirrors store chain regions)
    (same : ∀ scope ∈ chain, other.scopes[scope]? = store.scopes[scope]?) :
    Mirrors other chain regions := by
  induction mirrors with
  | root isFound noVariables =>
      exact .root ((same 0 (List.mem_singleton_self _)).trans isFound) noVariables
  | within isFound _ inductionHypothesis =>
      exact .within ((same _ (List.mem_cons_self)).trans isFound)
        (inductionHypothesis fun scope member => same scope (List.mem_cons_of_mem _ member))

theorem lt_size
    (mirrors : Mirrors store chain regions) {scope : ScopeId} (member : scope ∈ chain) :
    scope < store.scopes.size := by
  induction mirrors with
  | root isFound =>
      obtain rfl := List.mem_singleton.mp member
      exact (Array.getElem?_eq_some_iff.mp isFound).1
  | within isFound _ inductionHypothesis =>
      rcases List.mem_cons.mp member with rfl | inOuter
      · exact (Array.getElem?_eq_some_iff.mp isFound).1
      · exact inductionHypothesis inOuter

theorem ne_nil
    (mirrors : Mirrors store chain regions) : chain ≠ [] := by
  cases mirrors <;> exact List.cons_ne_nil _ _

theorem root_mem
    (mirrors : Mirrors store chain regions) : 0 ∈ chain := by
  induction mirrors with
  | root => exact List.mem_singleton_self _
  | within _ _ inductionHypothesis => exact List.mem_cons_of_mem _ inductionHypothesis

/-- A chain without repetition is no longer than the store is large. -/
theorem length_le_size
    (mirrors : Mirrors store chain regions) (distinct : chain.Nodup) :
    chain.length ≤ store.scopes.size := by
  have bounded : chain ⊆ List.range store.scopes.size := fun scope member =>
    List.mem_range.mpr (mirrors.lt_size member)
  simpa using distinct.length_le_of_subset bounded

theorem chainWithin_eq
    {scope : ScopeId} (mirrors : Mirrors store (scope :: chain) regions) {steps : Nat}
    (enough : chain.length ≤ steps) :
    store.chainWithin steps scope = scope :: chain := by
  induction steps generalizing scope chain regions with
  | zero =>
      obtain rfl := List.length_eq_zero_iff.mp (Nat.le_zero.mp enough)
      rfl
  | succ steps inductionHypothesis =>
      cases mirrors with
      | root isFound => simp [chainWithin, enclosing?, isFound]
      | within isFound mirrorsOuter =>
          have outerChain := inductionHypothesis mirrorsOuter (Nat.le_of_succ_le_succ enough)
          simp [chainWithin, enclosing?, isFound, outerChain]

theorem chain_eq
    {scope : ScopeId} (mirrors : Mirrors store (scope :: chain) regions)
    (distinct : (scope :: chain).Nodup) :
    store.chain scope = scope :: chain :=
  mirrors.chainWithin_eq (Nat.le_of_succ_le (mirrors.length_le_size distinct))

/-- Along the chain a name leads to its declaration in the nearest region. -/
theorem findSome?_chain
    (mirrors : Mirrors store chain regions) (name : String) :
    chain.findSome? (store.find? · ⟨.vars, name⟩) =
      (Region.nearest? regions name).map VariableDecl.entry := by
  induction mirrors with
  | root isFound noVariables =>
      have noEntry : store.find? 0 ⟨.vars, name⟩ = none := by
        rw [find?_eq _ isFound, Scope.find?, List.find?_eq_none]
        intro entry member isKey
        exact noVariables entry member (congrArg Key.kind (of_decide_eq_true isKey))
      simp [noEntry, Region.nearest?]
  | within isFound _ inductionHypothesis =>
      rw [List.findSome?_cons, inductionHypothesis, find?_eq _ isFound, Scope.find?,
        Region.find?_entries, Region.nearest?, Region.nearest?, List.findSome?_cons]
      cases Region.declarationOf? _ name <;> rfl

theorem lookup?_eq
    {scope : ScopeId} (mirrors : Mirrors store (scope :: chain) regions)
    (distinct : (scope :: chain).Nodup) (isTop : store.top? = some scope) (name : String) :
    store.lookup? ⟨.vars, name⟩ =
      (Region.nearest? regions name).map VariableDecl.entry := by
  rw [lookup?, isTop, Option.bind_some, mirrors.chain_eq distinct]
  exact mirrors.findSome?_chain name

/-- More declarations in the innermost region are more entries in the innermost scope. -/
theorem extend
    {scope : ScopeId} {region : Region}
    (mirrors : Mirrors store (scope :: chain) (region :: regions))
    (distinct : (scope :: chain).Nodup) (declared : Region) :
    Mirrors
      (store.extend scope
        ((VariableDecl.firstsBeside region.names declared).map VariableDecl.entry))
      (scope :: chain) ((region ++ declared) :: regions) := by
  cases mirrors with
  | within isFound mirrorsOuter =>
      refine .within ?_ (mirrorsOuter.of_same fun outer member => ?_)
      · rw [extend_self _ isFound, Region.entries_append]
      · refine store.extend_other _ fun equal => ?_
        exact (List.nodup_cons.mp distinct).1 (equal ▸ member)

/-- An empty scope that is pushed under the innermost one starts with an empty region. -/
theorem push
    {scope inner : ScopeId} (mirrors : Mirrors store (scope :: chain) regions)
    (isTop : store.top? = some scope) (isEmpty : store.scopes[inner]? = some ⟨[], none⟩)
    (isNew : inner ∉ scope :: chain) :
    Mirrors (store.push inner) (inner :: scope :: chain) ([] :: regions) := by
  have isOld (older : ScopeId) (member : older ∈ scope :: chain) : older ≠ inner :=
    fun same => isNew (same ▸ member)
  refine .within ?_ (mirrors.of_same fun older member => ?_)
  · exact attach_self _ isEmpty isTop (isOld scope List.mem_cons_self)
  · exact attach_other store (isOld older member)

end Mirrors

end StructLang
