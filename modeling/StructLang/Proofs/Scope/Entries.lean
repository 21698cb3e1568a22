import StructLang.Proofs.Scope.Loops

/-!
# Entries that stay

Whatever is done to a store, an entry that a scope holds under a key stays there, and so does the
link from a scope to the one around it. A new entry goes into the innermost scope and nowhere else;
it is refused if its key is taken there. Where the links from the innermost scope come to an end, a
lookup finds what the nearest scope on the way holds. Other scopes have no part in it, on the stack
or not. Lookups are no changes, so there may be any number of them between two changes.

- `Keeps.changes` : links and entries stay.
- `putsIn_top` : what becomes of a new entry.
- `TopLeads.findsNearest` : what a lookup finds.
- `entries_stay_and_nearest_found` : the three for all stores that changes lead to.
-/

namespace StructLang.ScopeStore

variable {before between after store : ScopeStore} {scope : ScopeId} {links : List ScopeId}

/-! ## What stays -/

/-- The links and the entries of one store are there in another one too. -/
structure Keeps (before after : ScopeStore) : Prop where
  link : ∀ scope outer, before.Link scope outer → after.Link scope outer
  entry : ∀ scope key entry, before.find? scope key = some entry →
    after.find? scope key = some entry

namespace Keeps

theorem refl
    (store : ScopeStore) : Keeps store store :=
  ⟨fun _ _ link => link, fun _ _ _ isFound => isFound⟩

theorem trans
    (first : Keeps before between) (second : Keeps between after) : Keeps before after := by
  constructor
  · intro scope outer link
    exact second.link scope outer (first.link scope outer link)
  · intro scope key entry isFound
    exact second.entry scope key entry (first.entry scope key entry isFound)

end Keeps

/-- A new scope has no entries, like a scope that does not exist. -/
theorem entries_create
    (store : ScopeStore) (enclosing? : Option ScopeId) (scope : ScopeId) :
    (store.create enclosing?).entries scope = store.entries scope := by
  rw [entries, entries, create_scopes]
  by_cases isNew : scope = store.fresh
  · have missing : store.scopes[scope]? = none := by
      rw [Array.getElem?_eq_none_iff, isNew]
      exact Nat.le_refl _
    rw [if_pos isNew, missing]
    rfl
  · rw [if_neg isNew]

theorem entries_extend_of_ne
    (store : ScopeStore) (new : List Entry) {other : ScopeId} (different : other ≠ scope) :
    (store.extend scope new).entries other = store.entries other := by
  rw [entries, entries, extend_other store new different]

theorem entries_extend_self
    (new : List Entry) (isThere : scope < store.scopes.size) :
    (store.extend scope new).entries scope = store.entries scope ++ new := by
  have isFound : store.scopes[scope]? = some store.scopes[scope] :=
    Array.getElem?_eq_getElem isThere
  rw [entries, entries, extend_self new isFound, isFound]
  rfl

theorem change_insert_free
    {entry : Entry} (isTop : store.top? = some scope)
    (isFree : store.find? scope entry.key = none) :
    store.change (.insert entry) = store.extend scope [entry] := by
  rw [change, insert_free isTop isFree]

theorem change_insert_taken
    {entry : Entry} (isTop : store.top? = some scope)
    (isTaken : store.find? scope entry.key ≠ none) :
    store.change (.insert entry) = store := by
  rw [change, insert_taken isTop isTaken]

theorem change_insert_noScope
    (entry : Entry) (isEmpty : store.top? = none) : store.change (.insert entry) = store := by
  rw [change, insert, isEmpty]

/-- New entries come behind those that a scope has. -/
theorem entries_prefix_extend
    (store : ScopeStore) (scope : ScopeId) (new : List Entry) (other : ScopeId) :
    store.entries other <+: (store.extend scope new).entries other := by
  by_cases isScope : other = scope
  · subst isScope
    by_cases isThere : other < store.scopes.size
    · rw [entries_extend_self new isThere]
      exact List.prefix_append _ _
    · have missing : store.scopes[other]? = none :=
        Array.getElem?_eq_none_iff.mpr (Nat.le_of_not_lt isThere)
      have noEntries : store.entries other = [] := by
        rw [entries, missing]
        rfl
      rw [noEntries]
      exact List.nil_prefix
  · have same := entries_extend_of_ne store new isScope
    exact same ▸ List.prefix_rfl

/-- No change takes an entry away or puts one in front of another. -/
theorem entries_prefix_change
    (store : ScopeStore) (next : Change) (scope : ScopeId) :
    store.entries scope <+: (store.change next).entries scope := by
  cases next with
  | create enclosing? =>
      have same := entries_create store enclosing? scope
      exact same ▸ List.prefix_rfl
  | push pushed =>
      have same := entries_push store pushed scope
      exact same ▸ List.prefix_rfl
  | pop => exact List.prefix_rfl
  | insert entry =>
      cases isTop : store.top? with
      | none =>
          have same := change_insert_noScope entry isTop
          exact same.symm ▸ List.prefix_rfl
      | some top =>
          by_cases isFree : store.find? top entry.key = none
          · rw [change_insert_free isTop isFree]
            exact entries_prefix_extend store top [entry] scope
          · have same := change_insert_taken isTop isFree
            exact same.symm ▸ List.prefix_rfl

theorem Keeps.change
    (store : ScopeStore) (next : Change) : Keeps store (store.change next) := by
  constructor
  · intro scope outer link
    exact link.change next
  · intro scope key entry isFound
    rw [find?_eq_find?_entries] at isFound ⊢
    exact (entries_prefix_change store next scope).find?_eq_some isFound

/-- Links and entries stay whatever changes come. -/
theorem Keeps.changes
    (store : ScopeStore) (several : List Change) : Keeps store (store.changes several) := by
  induction several generalizing store with
  | nil => exact .refl store
  | cons first rest inductionHypothesis =>
      exact (Keeps.change store first).trans (inductionHypothesis (store.change first))

/-! ## New entries -/

/-- One store has one entry more than another: the last one of this scope. -/
structure HasMore (before after : ScopeStore) (scope : ScopeId) (entry : Entry) : Prop where
  stack : after.stack = before.stack
  size : after.scopes.size = before.scopes.size
  links : ∀ other, after.enclosing? other = before.enclosing? other
  others : ∀ other, other ≠ scope → after.scopes[other]? = before.scopes[other]?
  entries : after.entries scope = before.entries scope ++ [entry]
  found : after.find? scope entry.key = some entry

theorem enclosing?_extend
    (store : ScopeStore) (scope : ScopeId) (new : List Entry) (other : ScopeId) :
    (store.extend scope new).enclosing? other = store.enclosing? other := by
  rw [enclosing?, enclosing?, extend, Array.getElem?_modify]
  by_cases isScope : scope = other
  · rw [if_pos isScope]
    cases store.scopes[other]? <;> rfl
  · rw [if_neg isScope]

theorem hasMore_extend
    {entry : Entry} (isThere : scope < store.scopes.size)
    (isFree : store.find? scope entry.key = none) :
    HasMore store (store.extend scope [entry]) scope entry := by
  have isLast := entries_extend_self [entry] isThere
  refine ⟨rfl, extend_size store scope [entry], enclosing?_extend store scope [entry], ?_, isLast,
    ?_⟩
  · intro other different
    exact extend_other store [entry] different
  · rw [find?_eq_find?_entries] at isFree ⊢
    rw [isLast, List.find?_append, isFree]
    simp

/-- An entry is refused if its key is taken in this scope, and nothing is changed then. Otherwise
the scope has it from now on, and there is no other change. -/
structure PutsIn (store : ScopeStore) (scope : ScopeId) (entry : Entry) : Prop where
  taken : store.find? scope entry.key ≠ none →
    store.insert entry = .error (.taken entry.key) ∧ store.change (.insert entry) = store
  free : store.find? scope entry.key = none →
    ∃ filled, store.insert entry = .ok filled ∧ store.change (.insert entry) = filled ∧
      HasMore store filled scope entry

/-- A new entry goes into the innermost scope. -/
theorem putsIn_top
    (isTop : store.top? = some scope) (isThere : scope < store.scopes.size) (entry : Entry) :
    PutsIn store scope entry where
  taken isTaken := ⟨insert_taken isTop isTaken, change_insert_taken isTop isTaken⟩
  free isFree :=
    ⟨_, insert_free isTop isFree, change_insert_free isTop isFree, hasMore_extend isThere isFree⟩

/-! ## Lookups -/

/-- The links from the innermost scope lead to an end, through these scopes. Without a scope on the
stack there are none. -/
def TopLeads (store : ScopeStore) (links : List ScopeId) : Prop :=
  match store.top? with
  | none => links = []
  | some scope => Leads store scope links

/-- A lookup ends. It finds what the first of these scopes holds that holds anything under the key,
and nothing just if none of them does. It is the same in every store in which it starts at the same
scope and these scopes are the same. -/
structure FindsNearest (store : ScopeStore) (links : List ScopeId) (key : Key) : Prop where
  ends : store.LooksUp key (store.lookup? key)
  found : ∀ entry, store.lookup? key = some entry ↔
    ∃ nearer holder farther, links = nearer ++ holder :: farther ∧
      store.find? holder key = some entry ∧ ∀ scope ∈ nearer, store.find? scope key = none
  missing : store.lookup? key = none ↔ ∀ scope ∈ links, store.find? scope key = none
  others : ∀ other : ScopeStore, other.top? = store.top? →
    (∀ scope ∈ links, other.scopes[scope]? = store.scopes[scope]?) →
      other.lookup? key = store.lookup? key

/-- Links lead on in the same way where the scopes on the way are the same. -/
theorem Leads.of_same_scopes
    (leads : Leads before scope links)
    (same : ∀ inner ∈ links, after.scopes[inner]? = before.scopes[inner]?) :
    Leads after scope links := by
  induction leads with
  | @ends scope isOld isLast =>
      have isSame := same scope (List.mem_singleton_self scope)
      rw [Array.getElem?_eq_getElem isOld] at isSame
      obtain ⟨isThere, -⟩ := Array.getElem?_eq_some_iff.mp isSame
      apply Leads.ends isThere
      rw [enclosing?, same scope (List.mem_singleton_self scope)]
      exact isLast
  | @goesOn scope outer _ isEnclosed _ inductionHypothesis =>
      have isLinked : after.enclosing? scope = some outer := by
        rw [enclosing?, same scope List.mem_cons_self]
        exact isEnclosed
      apply Leads.goesOn isLinked
      apply inductionHypothesis
      intro inner isThere
      exact same inner (List.mem_cons_of_mem scope isThere)

namespace TopLeads

theorem lookup?_eq
    (leads : TopLeads store links) (key : Key) :
    store.lookup? key = links.findSome? (store.find? · key) := by
  rw [TopLeads] at leads
  rw [lookup?]
  split at leads
  case h_1 isEmpty =>
    rw [isEmpty, leads]
    rfl
  case h_2 scope isTop => rw [isTop, Option.bind_some, leads.chain_eq]

theorem looksUp
    (leads : TopLeads store links) (key : Key) : store.LooksUp key (store.lookup? key) := by
  apply LooksUp.of_leads
  intro scope isTop
  rw [TopLeads, isTop] at leads
  exact ⟨links, leads⟩

theorem of_same_scopes
    (leads : TopLeads before links) (sameTop : after.top? = before.top?)
    (same : ∀ scope ∈ links, after.scopes[scope]? = before.scopes[scope]?) :
    TopLeads after links := by
  rw [TopLeads] at leads ⊢
  rw [sameTop]
  split at leads
  case h_1 isEmpty => exact leads
  case h_2 scope isTop => exact leads.of_same_scopes same

theorem findsNearest
    (leads : TopLeads store links) (key : Key) : FindsNearest store links key where
  ends := leads.looksUp key
  found entry := by rw [leads.lookup?_eq, List.findSome?_eq_some_iff]
  missing := by rw [leads.lookup?_eq, List.findSome?_eq_none_iff]
  others other sameTop same := by
    have leadsToo := leads.of_same_scopes sameTop same
    have sameFound : ∀ scope ∈ links, other.find? scope key = store.find? scope key := by
      intro scope isThere
      rw [find?, find?, same scope isThere]
    rw [leads.lookup?_eq, leadsToo.lookup?_eq, ← List.head?_filterMap,
      ← List.head?_filterMap, List.filterMap_congr sameFound]

end TopLeads

/-! ## All stores -/

/-- After any changes that name only scopes of the store, all links and entries stay whatever
further changes come, a new entry goes into the innermost scope unless its key is taken there, and
where the links from the innermost scope lead to an end, a lookup finds what the nearest scope on
the way holds. -/
theorem entries_stay_and_nearest_found
    (several : List Change) (admitted : Along Admits empty several) :
    (∀ more, Keeps (empty.changes several) (empty.changes (several ++ more))) ∧
      (∀ scope entry, (empty.changes several).top? = some scope →
        PutsIn (empty.changes several) scope entry) ∧
      ∀ links key, TopLeads (empty.changes several) links →
        FindsNearest (empty.changes several) links key := by
  refine ⟨?_, ?_, ?_⟩
  · intro more
    rw [changes, changes, List.foldl_append]
    exact Keeps.changes _ more
  · intro scope entry isTop
    have onStack : scope ∈ (empty.changes several).stack := List.mem_of_head? isTop
    exact putsIn_top isTop (holdsStack_empty.changes admitted scope onStack) entry
  · intro links key leads
    exact leads.findsNearest key

/-- Three scopes, of which the innermost was made inside the outermost one. The one between them is
on the stack, but lookups pass it over. -/
def passedOver : List Change :=
  [.create none, .push 0, .insert (.ofVariable "x" .int), .create none, .push 1,
    .insert (.ofVariable "x" .bool), .create (some 0), .push 2, .insert (.ofVariable "y" .int)]

theorem entries_stay_and_nearest_found_passedOver :
    Along Admits empty passedOver ∧ (empty.changes passedOver).stack = [2, 1, 0] ∧
      TopLeads (empty.changes passedOver) [2, 0] ∧
      (empty.changes passedOver).lookup? ⟨.vars, "x"⟩ = some (.ofVariable "x" .int) ∧
      (empty.changes passedOver).insert (.ofVariable "y" .bool) = .error (.taken ⟨.vars, "y"⟩) ∧
      ∀ more, (empty.changes (passedOver ++ more)).find? 1 ⟨.vars, "x"⟩ =
        some (.ofVariable "x" .bool) := by
  have admitted : Along Admits empty passedOver := by decide
  obtain ⟨keeps, putsIn, findsNearest⟩ := entries_stay_and_nearest_found passedOver admitted
  have leads : TopLeads (empty.changes passedOver) [2, 0] :=
    .goesOn rfl (.ends (by decide) rfl)
  refine ⟨admitted, rfl, leads, ?_, ?_, ?_⟩
  · exact ((findsNearest [2, 0] ⟨.vars, "x"⟩ leads).found _).mpr
      ⟨[2], 0, [], rfl, rfl, fun scope isNearer => by
        obtain rfl := List.mem_singleton.mp isNearer
        rfl⟩
  · exact ((putsIn 2 (.ofVariable "y" .bool) rfl).taken (by decide)).1
  · intro more
    exact (keeps more).entry 1 ⟨.vars, "x"⟩ (.ofVariable "x" .bool) rfl

end StructLang.ScopeStore
