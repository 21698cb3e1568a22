import Mathlib.Data.List.Nodup
import StructLang.Proofs.Scope.Store

/-!
# Links between scopes

Links lead from a scope to those around it. Where they lead to an end, no scope occurs twice, since
a scope leads on in one way only. A store has a passage if the innermost scope of its stack leads
to the outermost one through scopes of the stack, in the order of the stack.

- `Leads.nodup` : what leads to an end never comes back.
- `Passage.lookup?_eq` : a lookup goes along the passage, so it ends after as many steps as the
  stack has scopes, if not before.
- `Passage.push_free`, `Passage.push_linked`, `Passage.push_again` : how a passage goes on when a
  scope is entered.
- `Settles` : what the visit of a statement leaves as it was.
-/

namespace StructLang.ScopeStore

variable {before after store : ScopeStore} {scope outer : ScopeId} {links : List ScopeId}

/-- The links from a scope lead through these scopes, from the scope itself to one that nothing
encloses. -/
inductive Leads (store : ScopeStore) : ScopeId → List ScopeId → Prop
  | ends {scope : ScopeId} :
      scope < store.scopes.size → store.enclosing? scope = none → Leads store scope [scope]
  | goesOn {scope outer : ScopeId} {links : List ScopeId} :
      store.enclosing? scope = some outer → Leads store outer links →
        Leads store scope (scope :: links)

theorem lt_size_of_enclosed
    (isEnclosed : store.enclosing? scope = some outer) : scope < store.scopes.size := by
  obtain ⟨found, isFound, -⟩ := Option.bind_eq_some_iff.mp isEnclosed
  exact (Array.getElem?_eq_some_iff.mp isFound).1

namespace Leads

theorem unique
    {otherLinks : List ScopeId} (leads : Leads store scope links)
    (leadsToo : Leads store scope otherLinks) :
    otherLinks = links := by
  induction leads generalizing otherLinks with
  | ends _ isLast =>
      cases leadsToo with
      | ends => rfl
      | goesOn isEnclosed =>
          rw [isLast] at isEnclosed
          cases isEnclosed
  | goesOn isEnclosed _ inductionHypothesis =>
      cases leadsToo with
      | ends _ isLast =>
          rw [isEnclosed] at isLast
          cases isLast
      | goesOn isEnclosedToo leadsOn =>
          rw [isEnclosed, Option.some.injEq] at isEnclosedToo
          subst isEnclosedToo
          rw [inductionHypothesis leadsOn]

theorem ne_nil
    (leads : Leads store scope links) : links ≠ [] := by
  cases leads <;> exact List.cons_ne_nil _ _

theorem head?_eq
    (leads : Leads store scope links) : links.head? = some scope := by
  cases leads <;> rfl

/-- From every scope on the way the links lead on along the rest of the way. -/
theorem from_mem
    {inner : ScopeId} (leads : Leads store scope links) (isThere : inner ∈ links) :
    ∃ rest, Leads store inner rest ∧ rest <:+ links := by
  induction leads with
  | ends isOld isLast =>
      obtain rfl := List.mem_singleton.mp isThere
      exact ⟨_, .ends isOld isLast, List.suffix_rfl⟩
  | goesOn isEnclosed leadsOn inductionHypothesis =>
      rcases List.mem_cons.mp isThere with rfl | isFurther
      · exact ⟨_, .goesOn isEnclosed leadsOn, List.suffix_rfl⟩
      · obtain ⟨rest, leadsRest, isSuffix⟩ := inductionHypothesis isFurther
        exact ⟨rest, leadsRest, isSuffix.trans (List.suffix_cons _ _)⟩

/-- A scope that came back would lead on by a shorter way than before. -/
theorem nodup
    (leads : Leads store scope links) : links.Nodup := by
  induction leads with
  | ends => exact List.nodup_singleton _
  | goesOn isEnclosed leadsOn inductionHypothesis =>
      refine List.nodup_cons.mpr ⟨fun comesBack => ?_, inductionHypothesis⟩
      obtain ⟨rest, leadsRest, isSuffix⟩ := leadsOn.from_mem comesBack
      have same := (Leads.goesOn isEnclosed leadsOn).unique leadsRest
      have shorter := isSuffix.length_le
      rw [same, List.length_cons] at shorter
      omega

theorem lt_size
    {inner : ScopeId} (leads : Leads store scope links) (isThere : inner ∈ links) :
    inner < store.scopes.size := by
  obtain ⟨rest, leadsRest, -⟩ := leads.from_mem isThere
  cases leadsRest with
  | ends isOld => exact isOld
  | goesOn isEnclosed => exact lt_size_of_enclosed isEnclosed

theorem length_le_size
    (leads : Leads store scope links) : links.length ≤ store.scopes.size := by
  have bounded : links ⊆ List.range store.scopes.size := fun inner isThere =>
    List.mem_range.mpr (leads.lt_size isThere)
  simpa using leads.nodup.length_le_of_subset bounded

theorem chainWithin_eq
    {steps : Nat} (leads : Leads store scope links) (enough : links.length ≤ steps + 1) :
    store.chainWithin steps scope = links := by
  induction steps generalizing scope links with
  | zero =>
      cases leads with
      | ends => rfl
      | goesOn _ leadsOn =>
          have positive := List.length_pos_iff.mpr leadsOn.ne_nil
          rw [List.length_cons] at enough
          omega
  | succ steps inductionHypothesis =>
      cases leads with
      | ends _ isLast => simp [chainWithin, isLast]
      | goesOn isEnclosed leadsOn =>
          have further := inductionHypothesis leadsOn (Nat.le_of_succ_le_succ enough)
          simp [chainWithin, isEnclosed, further]

theorem chain_eq
    (leads : Leads store scope links) : store.chain scope = links :=
  leads.chainWithin_eq (Nat.le_succ_of_le leads.length_le_size)

theorem hops_eq
    (leads : Leads store scope links) : store.hops scope = links.length - 1 := by
  rw [hops, leads.chain_eq]

/-- The last scope on the way leads nowhere else. -/
theorem from_last
    {last : ScopeId} (leads : Leads store scope links) (isLast : links.getLast? = some last) :
    Leads store last [last] := by
  induction leads with
  | ends isOld isEnd =>
      obtain rfl := Option.some.inj isLast
      exact .ends isOld isEnd
  | goesOn _ leadsOn inductionHypothesis =>
      rw [List.getLast?_cons_of_ne_nil leadsOn.ne_nil] at isLast
      exact inductionHypothesis isLast

/-- Links lead on in the same way where none on the way is changed. -/
theorem of_same
    (leads : Leads before scope links) (larger : before.scopes.size ≤ after.scopes.size)
    (same : ∀ inner ∈ links, after.enclosing? inner = before.enclosing? inner) :
    Leads after scope links := by
  induction leads with
  | ends isOld isLast =>
      exact .ends (Nat.lt_of_lt_of_le isOld larger)
        ((same _ (List.mem_singleton_self _)).trans isLast)
  | goesOn isEnclosed _ inductionHypothesis =>
      exact .goesOn ((same _ List.mem_cons_self).trans isEnclosed)
        (inductionHypothesis fun inner isThere => same inner (List.mem_cons_of_mem _ isThere))

/-- The stack has no part in where links lead. -/
theorem pop
    (leads : Leads store scope links) : Leads store.pop scope links :=
  leads.of_same (Nat.le_refl store.scopes.size) fun _ _ => rfl

end Leads

theorem chainWithin_pop
    (store : ScopeStore) (steps : Nat) (scope : ScopeId) :
    store.pop.chainWithin steps scope = store.chainWithin steps scope := by
  have sameLinks (scope : ScopeId) : store.pop.enclosing? scope = store.enclosing? scope := rfl
  induction steps generalizing scope with
  | zero => rfl
  | succ steps inductionHypothesis => simp only [chainWithin, sameLinks, inductionHypothesis]

theorem hops_pop
    (store : ScopeStore) (scope : ScopeId) : store.pop.hops scope = store.hops scope := by
  rw [hops, hops, chain, chain, chainWithin_pop]
  rfl

/-! ## Links that are made -/

theorem size_enclose
    (store : ScopeStore) (scope outer : ScopeId) :
    (store.enclose scope outer).scopes.size = store.scopes.size := by
  simp [enclose]

theorem enclosing?_enclose_self
    (store : ScopeStore) {scope : ScopeId} (outer : ScopeId)
    (isThere : scope < store.scopes.size) :
    (store.enclose scope outer).enclosing? scope = some outer := by
  simp only [enclosing?, enclose, Array.getElem?_modify, if_pos, Array.getElem?_eq_getElem isThere]
  rfl

theorem enclosing?_enclose_of_ne
    (store : ScopeStore) (outer : ScopeId) {scope other : ScopeId} (different : other ≠ scope) :
    (store.enclose scope outer).enclosing? other = store.enclosing? other := by
  simp [enclosing?, enclose, Array.getElem?_modify, different.symm]

/-- Links are made apart from entries. -/
theorem entries_enclose
    (store : ScopeStore) (scope outer other : ScopeId) :
    (store.enclose scope outer).entries other = store.entries other := by
  simp only [entries, enclose, Array.getElem?_modify]
  split <;> simp [Function.comp_def]

theorem entries_push
    (store : ScopeStore) (scope other : ScopeId) :
    (store.push scope).entries other = store.entries other := by
  change (store.attach scope).entries other = _
  rw [attach]
  split
  · rfl
  · split
    · rfl
    · exact entries_enclose store scope _ other

/-- What is found in a scope is found among its entries. -/
theorem find?_eq_find?_entries
    (store : ScopeStore) (scope : ScopeId) (key : Key) :
    store.find? scope key = (store.entries scope).find? (·.key = key) := by
  rw [find?, entries]
  cases store.scopes[scope]? <;> rfl

theorem find?_push
    (store : ScopeStore) (scope other : ScopeId) (key : Key) :
    (store.push scope).find? other key = store.find? other key := by
  rw [find?_eq_find?_entries, find?_eq_find?_entries, entries_push]

/-! ## The passage to the outermost scope -/

/-- The links from the innermost scope of the stack lead through scopes of the stack, in their
order there, to the outermost one. -/
structure Passage (store : ScopeStore) (links : List ScopeId) : Prop where
  leads : ∃ scope, store.top? = some scope ∧ store.Leads scope links
  onStack : links.Sublist store.stack
  root : links.getLast? = store.root?

namespace Passage

theorem ne_nil
    (passage : Passage store links) : links ≠ [] := by
  obtain ⟨scope, -, leads⟩ := passage.leads
  exact leads.ne_nil

theorem nodup
    (passage : Passage store links) : links.Nodup := by
  obtain ⟨scope, -, leads⟩ := passage.leads
  exact leads.nodup

theorem length_le_depth
    (passage : Passage store links) : links.length ≤ store.depth :=
  passage.onStack.length_le

/-- A lookup goes along the passage. -/
theorem lookup?_eq
    (passage : Passage store links) (key : Key) :
    store.lookup? key = links.findSome? (store.find? · key) := by
  obtain ⟨scope, isTop, leads⟩ := passage.leads
  rw [lookup?, isTop, Option.bind_some, leads.chain_eq]

end Passage

theorem root?_push
    (store : ScopeStore) (scope : ScopeId) :
    (store.push scope).root? = some (store.root?.getD scope) := by
  simp [push, root?, List.getLast?_cons]

theorem enclosing?_push_of_ne
    (store : ScopeStore) {scope other : ScopeId} (different : other ≠ scope) :
    (store.push scope).enclosing? other = store.enclosing? other := by
  simp only [push, enclosing?, attach_other store different]

theorem size_push
    (store : ScopeStore) (scope : ScopeId) :
    (store.push scope).scopes.size = store.scopes.size :=
  attach_size store scope

namespace Passage

/-- A scope that nothing encloses yet leads to the innermost one when it is entered. -/
theorem push_free
    {inner : ScopeId} (passage : Passage store links) (isThere : inner < store.scopes.size)
    (isFree : store.enclosing? inner = none) (isNew : inner ∉ links) :
    Passage (store.push inner) (inner :: links) := by
  obtain ⟨scope, isTop, leads⟩ := passage.leads
  have isOnWay : scope ∈ links := List.mem_of_head? leads.head?_eq
  have different : scope ≠ inner := fun same => isNew (same ▸ isOnWay)
  have isEnclosed : (store.push inner).enclosing? inner = some scope := by
    obtain ⟨held, isHeld⟩ : ∃ held, store.scopes[inner]? = some held :=
      ⟨_, Array.getElem?_eq_getElem isThere⟩
    have noLink : held.enclosing? = none := by simpa [enclosing?, isHeld] using isFree
    obtain ⟨entries, link?⟩ := held
    obtain rfl : link? = none := noLink
    simp [push, enclosing?, attach_self store isHeld isTop different]
  have leadsStill : Leads (store.push inner) scope links := by
    refine leads.of_same (Nat.le_of_eq (size_push store inner).symm) fun other isThere => ?_
    exact enclosing?_push_of_ne store fun same => isNew (same ▸ isThere)
  refine ⟨⟨inner, rfl, .goesOn isEnclosed leadsStill⟩, passage.onStack.cons_cons inner, ?_⟩
  rw [root?_push, List.getLast?_cons, passage.root]

/-- A scope that is linked already keeps its link when it is entered. -/
theorem push_linked
    {inner : ScopeId} (leads : Leads store inner (inner :: links))
    (isLinked : (store.enclosing? inner).isSome) (onStack : links.Sublist store.stack)
    (root : (inner :: links).getLast? = store.root?) :
    Passage (store.push inner) (inner :: links) := by
  have same : store.attach inner = store := attach_eq_self store (Or.inr isLinked)
  have leadsStill : Leads (store.push inner) inner (inner :: links) := by
    refine leads.of_same (Nat.le_of_eq (size_push store inner).symm) fun other _ => ?_
    simp only [push, enclosing?, same]
  refine ⟨⟨inner, rfl, leadsStill⟩, onStack.cons_cons inner, ?_⟩
  rw [root?_push, ← root, List.getLast?_cons]
  rfl

/-- The innermost scope is entered once more. -/
theorem push_again
    (passage : Passage store links) (isTop : store.top? = some scope) :
    Passage (store.push scope) links := by
  obtain ⟨inner, isInner, leads⟩ := passage.leads
  obtain rfl := Option.some.inj (isTop.symm.trans isInner)
  have same : store.attach scope = store := attach_eq_self store (Or.inl isTop)
  have leadsStill : Leads (store.push scope) scope links := by
    refine leads.of_same (Nat.le_of_eq (size_push store scope).symm) fun other _ => ?_
    simp only [push, enclosing?, same]
  refine ⟨⟨scope, rfl, leadsStill⟩, passage.onStack.cons scope, ?_⟩
  rw [root?_push, ← passage.root, List.getLast?_eq_some_getLast leads.ne_nil]
  rfl

/-- The outermost scope leads nowhere else. -/
theorem leads_root
    {root : ScopeId} (passage : Passage store links) (isRoot : store.root? = some root) :
    store.Leads root [root] := by
  obtain ⟨scope, -, leads⟩ := passage.leads
  exact leads.from_last (passage.root.trans isRoot)

/-- The innermost scope is left for another one, to which it is linked. -/
theorem pop_outwards
    {inner outer : ScopeId} {rest : List ScopeId}
    (passage : Passage store (inner :: outer :: links))
    (isStack : store.stack = inner :: outer :: rest) : Passage store.pop (outer :: links) := by
  have onStack := passage.onStack
  have root := passage.root
  rw [isStack] at onStack
  rw [root?, isStack, List.getLast?_cons_cons, List.getLast?_cons_cons] at root
  have popped : store.pop.stack = outer :: rest := congrArg List.tail isStack
  refine ⟨⟨outer, ?_, ?_⟩, ?_, ?_⟩
  · rw [top?, popped]
    rfl
  · obtain ⟨scope, -, leads⟩ := passage.leads
    cases leads with
    | goesOn isEnclosed leadsOn =>
        obtain rfl := Option.some.inj leadsOn.head?_eq
        exact leadsOn.pop
  · rw [popped]
    exact List.cons_sublist_cons.mp onStack
  · rw [root?, popped, root]

/-- A scope that was entered twice is left once. -/
theorem pop_again
    {rest : List ScopeId} (passage : Passage store links)
    (isStack : store.stack = scope :: scope :: rest) : Passage store.pop links := by
  obtain ⟨inner, isTop, leads⟩ := passage.leads
  obtain rfl : scope = inner := by simpa [top?, isStack] using isTop
  have popped : store.pop.stack = scope :: rest := congrArg List.tail isStack
  refine ⟨⟨scope, ?_, leads.pop⟩, ?_, ?_⟩
  · rw [top?, popped]
    rfl
  · have nodup := leads.nodup
    have onStack := passage.onStack
    rw [isStack] at onStack
    rw [popped]
    cases leads with
    | ends => exact List.singleton_sublist.mpr List.mem_cons_self
    | goesOn isEnclosed leadsOn =>
        have isFurther := List.cons_sublist_cons.mp onStack
        refine (List.Sublist.cons_cons scope ?_)
        cases isFurther with
        | cons _ further => exact further
        | cons_cons => exact absurd List.mem_cons_self (List.nodup_cons.mp nodup).1
  · rw [passage.root, root?, isStack, root?, popped, List.getLast?_cons_cons]

/-- Only the outermost scope is left. -/
theorem pop_root
    {inner root : ScopeId} (passage : Passage store links)
    (isStack : store.stack = [inner, root]) : Passage store.pop [root] := by
  have popped : store.pop.stack = [root] := congrArg List.tail isStack
  have isRoot : store.root? = some root := by simp [root?, isStack]
  refine ⟨⟨root, ?_, (passage.leads_root isRoot).pop⟩, ?_, ?_⟩
  · rw [top?, popped]
    rfl
  · rw [popped]
  · rw [root?, popped]

end Passage

/-! ## What visits leave as it was -/

/-- The stack is as it was, and of the scopes there were all links are, and all entries but those
of the innermost scope. -/
structure Settles (before after : ScopeStore) : Prop where
  stack : after.stack = before.stack
  size : before.scopes.size ≤ after.scopes.size
  links : ∀ scope < before.scopes.size, after.enclosing? scope = before.enclosing? scope
  entries : ∀ scope < before.scopes.size, before.top? ≠ some scope →
    after.entries scope = before.entries scope

namespace Settles

theorem refl
    (store : ScopeStore) : Settles store store :=
  ⟨rfl, Nat.le_refl _, fun _ _ => rfl, fun _ _ _ => rfl⟩

theorem top?_eq
    (settles : Settles before after) : after.top? = before.top? :=
  congrArg List.head? settles.stack

theorem root?_eq
    (settles : Settles before after) : after.root? = before.root? :=
  congrArg List.getLast? settles.stack

theorem trans
    {between : ScopeStore} (first : Settles before between) (second : Settles between after) :
    Settles before after := by
  refine ⟨second.stack.trans first.stack, Nat.le_trans first.size second.size,
    fun scope isOld => ?_, fun scope isOld notTop => ?_⟩
  · have isStill := Nat.lt_of_lt_of_le isOld first.size
    exact (second.links scope isStill).trans (first.links scope isOld)
  · have isStill := Nat.lt_of_lt_of_le isOld first.size
    rw [second.entries scope isStill (first.top?_eq ▸ notTop), first.entries scope isOld notTop]

theorem create
    (store : ScopeStore) (enclosing? : Option ScopeId) :
    Settles store (store.create enclosing?) := by
  have same : ∀ scope < store.scopes.size,
      (store.create enclosing?).scopes[scope]? = store.scopes[scope]? := by
    intro scope isOld
    rw [create_scopes, if_neg (show scope ≠ store.fresh from Nat.ne_of_lt isOld)]
  refine ⟨rfl, ?_, fun scope isOld => ?_, fun scope isOld _ => ?_⟩
  · rw [create_size]
    exact Nat.le_succ _
  · rw [ScopeStore.enclosing?, ScopeStore.enclosing?, same scope isOld]
  · rw [ScopeStore.entries, ScopeStore.entries, same scope isOld]

/-- More entries in the innermost scope. -/
theorem extend
    {store : ScopeStore} (isTop : store.top? = some scope) (new : List Entry) :
    Settles store (store.extend scope new) := by
  refine ⟨rfl, Nat.le_of_eq (extend_size store scope new).symm, fun other _ => ?_,
    fun other _ notTop => ?_⟩
  · by_cases isScope : other = scope
    · subst isScope
      cases isFound : store.scopes[other]? with
      | none => simp [ScopeStore.enclosing?, ScopeStore.extend, isFound, Array.getElem?_modify]
      | some found => simp [ScopeStore.enclosing?, extend_self new isFound, isFound]
    · rw [ScopeStore.enclosing?, ScopeStore.enclosing?, extend_other store new isScope]
  · have isOther : other ≠ scope := fun same => notTop (same ▸ isTop)
    rw [ScopeStore.entries, ScopeStore.entries, extend_other store new isOther]

/-- What is put in goes into the innermost scope. -/
theorem of_insert
    {store filled : ScopeStore} {entry : Entry} (inserted : store.insert entry = .ok filled) :
    Settles store filled := by
  rw [insert] at inserted
  split at inserted
  case h_1 => cases inserted
  case h_2 scope isTop =>
    split at inserted
    · cases inserted
    · cases inserted
      exact extend isTop [entry]

/-- A visit inside a new scope leaves all that was there before. -/
theorem inNewScope
    {enclosing? : Option ScopeId}
    (settles : Settles ((before.create enclosing?).push before.fresh) after) :
    Settles before after.pop := by
  have larger := create_size before enclosing?
  have sameSize : ((before.create enclosing?).push before.fresh).scopes.size =
      before.scopes.size + 1 := (size_push _ _).trans larger
  have same : ∀ scope < before.scopes.size,
      ((before.create enclosing?).push before.fresh).scopes[scope]? =
        before.scopes[scope]? := by
    intro scope isOld
    have isOther : scope ≠ before.fresh := Nat.ne_of_lt isOld
    exact (attach_other _ isOther).trans ((create_scopes _ _ _).trans (if_neg isOther))
  have size := settles.size
  refine ⟨?_, ?_, fun scope isOld => ?_, fun scope isOld _ => ?_⟩
  · exact congrArg List.tail settles.stack
  · change before.scopes.size ≤ after.scopes.size
    omega
  · change after.enclosing? scope = _
    rw [settles.links scope (by omega), ScopeStore.enclosing?, ScopeStore.enclosing?,
      same scope isOld]
  · change after.entries scope = _
    have notTop : ((before.create enclosing?).push before.fresh).top? ≠ some scope :=
      fun isTop => Nat.ne_of_gt isOld (Option.some.inj isTop)
    rw [settles.entries scope (by omega) notTop, ScopeStore.entries, ScopeStore.entries,
      same scope isOld]

end Settles

theorem Leads.of_settles
    (leads : Leads before scope links) (settles : Settles before after) :
    Leads after scope links :=
  leads.of_same settles.size fun inner isThere => settles.links inner (leads.lt_size isThere)

theorem Passage.of_settles
    (passage : Passage before links) (settles : Settles before after) :
    Passage after links := by
  obtain ⟨scope, isTop, leads⟩ := passage.leads
  refine ⟨⟨scope, settles.top?_eq.trans isTop, leads.of_settles settles⟩, ?_, ?_⟩
  · rw [settles.stack]
    exact passage.onStack
  · rw [settles.root?_eq]
    exact passage.root

/-- A new scope leads to the innermost one when it is entered. -/
theorem Passage.push_new
    (passage : Passage store links) :
    Passage ((store.create none).push store.fresh) (store.fresh :: links) := by
  have isMade : (store.create none).scopes[store.fresh]? = some ⟨[], none⟩ := by
    rw [create_scopes, if_pos rfl]
  have isThere := (Array.getElem?_eq_some_iff.mp isMade).1
  have isFree : (store.create none).enclosing? store.fresh = none := by
    simp [enclosing?, isMade]
  obtain ⟨scope, -, leads⟩ := passage.leads
  have isNew : store.fresh ∉ links := fun isOld => Nat.lt_irrefl _ (leads.lt_size isOld)
  exact (passage.of_settles (.create store none)).push_free isThere isFree isNew

/-- A new scope that was made inside the outermost one leads there at once. -/
theorem Passage.push_atRoot
    {root : ScopeId} (passage : Passage store links) (isRoot : store.root? = some root) :
    Passage ((store.create (some root)).push store.fresh) [store.fresh, root] := by
  have isMade : (store.create (some root)).scopes[store.fresh]? = some ⟨[], some root⟩ := by
    rw [create_scopes, if_pos rfl]
  have isLinked : (store.create (some root)).enclosing? store.fresh = some root := by
    simp [enclosing?, isMade]
  have leads := (passage.leads_root isRoot).of_settles (.create store (some root))
  refine .push_linked (.goesOn isLinked leads) ?_ ?_ ?_
  · rw [isLinked]
    rfl
  · exact List.singleton_sublist.mpr (List.mem_of_getLast? isRoot)
  · exact isRoot.symm

end StructLang.ScopeStore
