import StructLang.Scope.Store

/-!
# What changes to a store leave alone

Every change touches one scope at most: a new one, the one that is pushed for the first time, or
the innermost one. `AltersOnly` says so of a run of changes that leaves the stack as it was.
-/

namespace StructLang.ScopeStore

/-! ## Single changes -/

theorem create_scopes
    (store : ScopeStore) (enclosing? : Option ScopeId) (scope : ScopeId) :
    (store.create enclosing?).scopes[scope]? =
      if scope = store.fresh then some ⟨[], enclosing?⟩ else store.scopes[scope]? := by
  simp only [create, fresh, Array.getElem?_push]
  rfl

theorem create_size
    (store : ScopeStore) (enclosing? : Option ScopeId) :
    (store.create enclosing?).scopes.size = store.scopes.size + 1 := by
  simp [create]

theorem attach_size
    (store : ScopeStore) (scope : ScopeId) :
    (store.attach scope).scopes.size = store.scopes.size := by
  simp only [attach]
  split
  · rfl
  · split
    · rfl
    · simp [enclose]

theorem attach_other
    (store : ScopeStore) {scope other : ScopeId} (different : other ≠ scope) :
    (store.attach scope).scopes[other]? = store.scopes[other]? := by
  simp only [attach]
  split
  · rfl
  · split
    · rfl
    · simp only [enclose, Array.getElem?_modify, different.symm, if_false]

/-- A scope that nothing encloses yet is enclosed in the innermost one when it is pushed. -/
theorem attach_self
    (store : ScopeStore) {scope outer : ScopeId} {entries : List Entry}
    (isFree : store.scopes[scope]? = some ⟨entries, none⟩)
    (isTop : store.top? = some outer) (different : outer ≠ scope) :
    (store.attach scope).scopes[scope]? = some ⟨entries, some outer⟩ := by
  have noEnclosing : (store.enclosing? scope).isSome = false := by
    simp [enclosing?, isFree]
  simp only [attach, isTop, different, noEnclosing, Bool.false_eq_true, or_false, if_false]
  simp [enclose, Array.getElem?_modify, isFree]

/-- A scope that is enclosed already, or lies on top, stays as it is. -/
theorem attach_eq_self
    (store : ScopeStore) {scope : ScopeId}
    (isSettled : store.top? = some scope ∨ (store.enclosing? scope).isSome) :
    store.attach scope = store := by
  simp only [attach]
  split
  · rfl
  · rename_i outer isTop
    rw [isTop, Option.some.injEq] at isSettled
    rw [if_pos isSettled]

/-- What a scope held, it still holds after a new one was pushed. -/
theorem found_push_new
    {store : ScopeStore} {scope : ScopeId} {held : Scope}
    (isHeld : store.scopes[scope]? = some held) :
    ((store.create none).push store.fresh).scopes[scope]? = some held := by
  have isOld : scope ≠ store.fresh := Nat.ne_of_lt (Array.getElem?_eq_some_iff.mp isHeld).1
  have kept := attach_other (store.create none) isOld
  rw [create_scopes, if_neg isOld, isHeld] at kept
  exact kept

/-- A store in which a scope has more entries. -/
def extend (store : ScopeStore) (scope : ScopeId) (new : List Entry) : ScopeStore :=
  { store with
    scopes := store.scopes.modify scope fun found =>
      { found with entries := found.entries ++ new } }

@[simp] theorem extend_stack
    (store : ScopeStore) (scope : ScopeId) (new : List Entry) :
    (store.extend scope new).stack = store.stack := rfl

@[simp] theorem extend_top?
    (store : ScopeStore) (scope : ScopeId) (new : List Entry) :
    (store.extend scope new).top? = store.top? := rfl

@[simp] theorem extend_root?
    (store : ScopeStore) (scope : ScopeId) (new : List Entry) :
    (store.extend scope new).root? = store.root? := rfl

@[simp] theorem extend_size
    (store : ScopeStore) (scope : ScopeId) (new : List Entry) :
    (store.extend scope new).scopes.size = store.scopes.size := by
  simp [extend]

theorem extend_other
    (store : ScopeStore) (new : List Entry) {scope other : ScopeId}
    (different : other ≠ scope) :
    (store.extend scope new).scopes[other]? = store.scopes[other]? := by
  simp only [extend, Array.getElem?_modify, different.symm, if_false]

theorem extend_self
    {store : ScopeStore} (new : List Entry) {scope : ScopeId} {found : Scope}
    (isFound : store.scopes[scope]? = some found) :
    (store.extend scope new).scopes[scope]? =
      some { found with entries := found.entries ++ new } := by
  simp [extend, Array.getElem?_modify, isFound]

theorem extend_nil
    (store : ScopeStore) (scope : ScopeId) :
    store.extend scope [] = store := by
  have same : (store.extend scope []).scopes = store.scopes := by
    refine Array.ext_getElem? fun other => ?_
    simp only [extend, List.append_nil, Array.getElem?_modify]
    split <;> simp
  simp only [extend] at same ⊢
  rw [same]

theorem extend_extend
    (store : ScopeStore) (scope : ScopeId) (new newer : List Entry) :
    (store.extend scope new).extend scope newer = store.extend scope (new ++ newer) := by
  have same : ((store.extend scope new).extend scope newer).scopes =
      (store.extend scope (new ++ newer)).scopes := by
    refine Array.ext_getElem? fun other => ?_
    simp only [extend, Array.getElem?_modify]
    split <;> simp [Function.comp_def]
  simp only [extend] at same ⊢
  rw [same]

/-- An entry with a free key is put into the innermost scope. -/
theorem insert_free
    {store : ScopeStore} {entry : Entry} {scope : ScopeId}
    (isTop : store.top? = some scope) (isFree : store.find? scope entry.key = none) :
    store.insert entry = .ok (store.extend scope [entry]) := by
  simp [insert, isTop, isFree, extend]

theorem insert_taken
    {store : ScopeStore} {entry : Entry} {scope : ScopeId}
    (isTop : store.top? = some scope) (isTaken : store.find? scope entry.key ≠ none) :
    store.insert entry = .error (.taken entry.key) := by
  simp [insert, isTop, Option.isSome_iff_ne_none.mpr isTaken]

theorem insert_size
    {store filled : ScopeStore} {entry : Entry} (inserted : store.insert entry = .ok filled) :
    filled.scopes.size = store.scopes.size := by
  rw [insert] at inserted
  split at inserted
  case h_1 => cases inserted
  case h_2 scope _ =>
    split at inserted
    · cases inserted
    · cases inserted
      exact extend_size store scope [entry]

theorem find?_eq
    {store : ScopeStore} {scope : ScopeId} {found : Scope} (key : Key)
    (isFound : store.scopes[scope]? = some found) :
    store.find? scope key = found.find? key := by
  simp [find?, isFound]

/-! ## Runs of changes -/

/-- A run of changes leaves the stack as it was, and of the scopes there were it alters no others
than these. -/
structure AltersOnly (altered : List ScopeId) (before after : ScopeStore) : Prop where
  stack : after.stack = before.stack
  size : before.scopes.size ≤ after.scopes.size
  same : ∀ scope < before.scopes.size, scope ∉ altered →
    after.scopes[scope]? = before.scopes[scope]?

namespace AltersOnly

variable {altered : List ScopeId} {before between after : ScopeStore}

theorem refl
    (store : ScopeStore) : AltersOnly altered store store :=
  ⟨rfl, Nat.le_refl _, fun _ _ _ => rfl⟩

theorem trans
    (first : AltersOnly altered before between) (second : AltersOnly altered between after) :
    AltersOnly altered before after :=
  ⟨second.stack.trans first.stack, Nat.le_trans first.size second.size,
    fun scope isThere untouched =>
      (second.same scope (Nat.lt_of_lt_of_le isThere first.size) untouched).trans
        (first.same scope isThere untouched)⟩

theorem mono
    {alteredToo : List ScopeId} (alters : AltersOnly altered before after)
    (more : ∀ scope ∈ altered, scope < before.scopes.size → scope ∈ alteredToo) :
    AltersOnly alteredToo before after :=
  ⟨alters.stack, alters.size, fun scope isThere untouched =>
    alters.same scope isThere fun touched => untouched (more scope touched isThere)⟩

theorem top?
    (alters : AltersOnly altered before after) : after.top? = before.top? := by
  simp only [ScopeStore.top?, alters.stack]

theorem root?
    (alters : AltersOnly altered before after) : after.root? = before.root? := by
  simp only [ScopeStore.root?, alters.stack]

/-- What a scope outside the altered ones held, it still holds. -/
theorem found
    {scope : ScopeId} {held : Scope}
    (alters : AltersOnly altered before after)
    (isHeld : before.scopes[scope]? = some held) (untouched : scope ∉ altered) :
    after.scopes[scope]? = some held :=
  (alters.same scope (Array.getElem?_eq_some_iff.mp isHeld).1 untouched).trans isHeld

theorem extend
    (store : ScopeStore) (scope : ScopeId) (new : List Entry) :
    AltersOnly [scope] store (store.extend scope new) :=
  ⟨rfl, by simp, fun _ _ untouched =>
    store.extend_other new fun equal => untouched (equal ▸ List.mem_singleton_self _)⟩

theorem create
    (store : ScopeStore) (enclosing? : Option ScopeId) :
    AltersOnly altered store (store.create enclosing?) := by
  refine ⟨rfl, by simp [create_size], fun scope isThere _ => ?_⟩
  rw [create_scopes, if_neg (show scope ≠ store.fresh from Nat.ne_of_lt isThere)]

theorem enclose
    (store : ScopeStore) (scope outer : ScopeId) :
    AltersOnly [scope] store (store.enclose scope outer) := by
  refine ⟨rfl, by simp [ScopeStore.enclose], fun other _ untouched => ?_⟩
  have different : scope ≠ other := fun equal => untouched (equal ▸ List.mem_singleton_self _)
  simp only [ScopeStore.enclose, Array.getElem?_modify, different, if_false]

/-- What happens inside a scope alters no more than what it alters itself, and that scope. -/
theorem inScope
    {scope : ScopeId} (alters : AltersOnly altered (before.push scope) after) :
    AltersOnly (scope :: altered) before after.pop := by
  refine ⟨?_, ?_, fun other isThere untouched => ?_⟩
  · simp [pop, alters.stack, push]
  · simpa [push, attach_size, pop] using alters.size
  · rw [List.mem_cons, not_or] at untouched
    have kept := alters.same other (by simpa [push, attach_size] using isThere) untouched.2
    simpa [pop, push, attach_other before untouched.1] using kept

/-- A scope that did not exist before is no alteration. -/
theorem inNewScope
    {enclosing? : Option ScopeId}
    (alters : AltersOnly (before.fresh :: altered)
      ((before.create enclosing?).push before.fresh) after) :
    AltersOnly altered before after.pop := by
  have inside := alters.inScope
  have larger := create_size before enclosing?
  refine ⟨inside.stack, ?_, fun scope isThere untouched => ?_⟩
  · have size := inside.size
    omega
  · have isOld : scope ≠ before.fresh := Nat.ne_of_lt isThere
    rw [inside.same scope (by omega)
      (by simp [isOld, untouched]), create_scopes, if_neg isOld]

end AltersOnly

end StructLang.ScopeStore
