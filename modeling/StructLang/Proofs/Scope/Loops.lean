import Mathlib.Logic.Relation
import StructLang.Proofs.Scope.Searches

/-!
# Loops of links

A scope that is pushed while nothing encloses it is linked to the innermost scope of the stack,
unless it is that one. Whether the innermost scope leads to it already does not matter to the
store. If it does, the new link closes a loop. This is the only way to make one.

- `Grounded.change` : a change that closes no loop leaves a store in which every scope leads to an
  end.
- `not_acyclic_of_closesLoop` : a push that closes a loop makes a scope reachable from itself.
- `acyclic_iff_no_loop_closed` : after any changes the links are without loops just if no push
  closed one, and then the search for every key ends.
- `free_scopes_enclose_each_other` : two scopes that are pushed by turns.
-/

namespace StructLang.ScopeStore

variable {before after store : ScopeStore} {scope outer : ScopeId} {links : List ScopeId}

/-- A change to a store from outside. -/
inductive Change
  | create (enclosing? : Option ScopeId)
  | push (scope : ScopeId)
  | pop
  | insert (entry : Entry)
  deriving DecidableEq, Repr

/-- The store after a change. An entry that is refused leaves it as it was. -/
def change (store : ScopeStore) : Change → ScopeStore
  | .create enclosing? => store.create enclosing?
  | .push scope => store.push scope
  | .pop => store.pop
  | .insert entry =>
      match store.insert entry with
      | .ok filled => filled
      | .error _ => store

/-- The store after several changes, one after the other. -/
def changes (store : ScopeStore) (several : List Change) : ScopeStore :=
  several.foldl change store

/-- A change names no other scopes than those of the store. -/
def Admits (store : ScopeStore) : Change → Prop
  | .create enclosing? => ∀ outer ∈ enclosing?, outer < store.scopes.size
  | .push scope => scope < store.scopes.size
  | .pop => True
  | .insert _ => True

instance (store : ScopeStore) : DecidablePred store.Admits
  | .create enclosing? => inferInstanceAs (Decidable (∀ outer ∈ enclosing?, outer < _))
  | .push scope => inferInstanceAs (Decidable (scope < store.scopes.size))
  | .pop => isTrue trivial
  | .insert _ => isTrue trivial

/-- A change links a scope to the innermost one, which leads to that scope already. -/
def ClosesLoop (store : ScopeStore) : Change → Prop
  | .push scope => store.enclosing? scope = none ∧
      ∃ outer ∈ store.top?, outer ≠ scope ∧ scope ∈ store.chain outer
  | _ => False

instance (store : ScopeStore) : DecidablePred store.ClosesLoop
  | .create _ => isFalse not_false
  | .push scope => inferInstanceAs (Decidable (store.enclosing? scope = none ∧
      ∃ outer ∈ store.top?, outer ≠ scope ∧ scope ∈ store.chain outer))
  | .pop => isFalse not_false
  | .insert _ => isFalse not_false

/-- A change closes no loop. -/
def KeepsOpen (store : ScopeStore) (next : Change) : Prop := ¬ store.ClosesLoop next

instance (store : ScopeStore) : DecidablePred store.KeepsOpen :=
  fun next => inferInstanceAs (Decidable (¬ store.ClosesLoop next))

/-- Each of several changes is of this kind in the store that it finds. -/
def Along (kind : ScopeStore → Change → Prop) : ScopeStore → List Change → Prop
  | _, [] => True
  | store, first :: rest => kind store first ∧ Along kind (store.change first) rest

instance decidableAlong (kind : ScopeStore → Change → Prop)
    [∀ store, DecidablePred (kind store)] :
    (store : ScopeStore) → (several : List Change) → Decidable (Along kind store several)
  | _, [] => isTrue trivial
  | store, first :: rest =>
      have := decidableAlong kind (store.change first) rest
      inferInstanceAs (Decidable (kind store first ∧ Along kind (store.change first) rest))

/-- One scope is the next around another. -/
def Link (store : ScopeStore) (scope outer : ScopeId) : Prop :=
  store.enclosing? scope = some outer

/-- No scope is reached from itself. -/
def Acyclic (store : ScopeStore) : Prop :=
  ∀ scope, ¬ Relation.TransGen store.Link scope scope

/-! ## Stacks of scopes that there are -/

/-- Only scopes of the store are on its stack. -/
def HoldsStack (store : ScopeStore) : Prop := ∀ scope ∈ store.stack, scope < store.scopes.size

namespace HoldsStack

theorem of_settles
    (holds : HoldsStack before) (settles : Settles before after) : HoldsStack after := by
  intro scope onStack
  rw [settles.stack] at onStack
  exact Nat.lt_of_lt_of_le (holds scope onStack) settles.size

theorem push
    (holds : HoldsStack store) (isThere : scope < store.scopes.size) :
    HoldsStack (store.push scope) := by
  intro other onStack
  rw [size_push]
  rcases List.mem_cons.mp onStack with rfl | isFurther
  · exact isThere
  · exact holds other isFurther

theorem pop
    (holds : HoldsStack store) : HoldsStack store.pop := by
  intro scope onStack
  exact holds scope (List.mem_of_mem_tail onStack)

theorem change
    {next : Change} (holds : HoldsStack store) (admitted : store.Admits next) :
    HoldsStack (store.change next) := by
  cases next with
  | create enclosing? => exact holds.of_settles (.create store enclosing?)
  | push scope => exact holds.push admitted
  | pop => exact holds.pop
  | insert entry =>
      rw [ScopeStore.change]
      split
      case h_1 filled inserted => exact holds.of_settles (.of_insert inserted)
      case h_2 => exact holds

/-- Changes that name only scopes of the store put no others on its stack. -/
theorem changes
    {several : List Change} (holds : HoldsStack store) (admitted : Along Admits store several) :
    HoldsStack (store.changes several) := by
  induction several generalizing store with
  | nil => exact holds
  | cons first rest inductionHypothesis =>
      exact inductionHypothesis (holds.change admitted.1) admitted.2

end HoldsStack

theorem holdsStack_empty : HoldsStack empty :=
  fun _ onStack => (nomatch onStack)

/-! ## Links that lead to an end -/

/-- Every scope leads to an end, and only scopes of the store are on the stack. -/
structure Grounded (store : ScopeStore) : Prop where
  leads : ∀ scope < store.scopes.size, ∃ links, store.Leads scope links
  onStack : ∀ scope ∈ store.stack, scope < store.scopes.size

theorem grounded_empty : Grounded empty :=
  ⟨fun _ isThere => (nomatch isThere), fun _ isThere => (nomatch isThere)⟩

theorem Leads.from_link
    (leads : Leads store scope links) (link : store.Link scope outer) :
    ∃ rest, Leads store outer rest ∧ rest.length < links.length := by
  cases leads with
  | ends _ isLast =>
      rw [Link, isLast] at link
      cases link
  | @goesOn _ next rest isEnclosed leadsOn =>
      obtain rfl : next = outer := Option.some.inj (isEnclosed.symm.trans link)
      exact ⟨rest, leadsOn, Nat.lt_succ_self _⟩

/-- The links from a scope that is reached lead to the end sooner. -/
theorem Leads.from_reached
    (leads : Leads store scope links) (reached : Relation.TransGen store.Link scope outer) :
    ∃ rest, Leads store outer rest ∧ rest.length < links.length := by
  induction reached with
  | single link => exact leads.from_link link
  | tail _ link inductionHypothesis =>
      obtain ⟨rest, leadsOn, sooner⟩ := inductionHypothesis
      obtain ⟨further, leadsFurther, soonerStill⟩ := leadsOn.from_link link
      exact ⟨further, leadsFurther, Nat.lt_trans soonerStill sooner⟩

theorem Grounded.acyclic
    (grounded : Grounded store) : store.Acyclic := by
  intro scope reached
  obtain ⟨next, link, -⟩ := Relation.TransGen.head'_iff.mp reached
  obtain ⟨links, leads⟩ := grounded.leads scope (lt_size_of_enclosed link)
  obtain ⟨rest, leadsToo, sooner⟩ := leads.from_reached reached
  rw [leads.unique leadsToo] at sooner
  exact Nat.lt_irrefl _ sooner

/-- A scope that nothing encloses is linked to the innermost one when it is pushed. -/
theorem enclosing?_push_free
    (isThere : scope < store.scopes.size) (isFree : store.enclosing? scope = none)
    (isTop : store.top? = some outer) (different : outer ≠ scope) :
    (store.push scope).enclosing? scope = some outer := by
  change (store.attach scope).enclosing? scope = some outer
  rw [attach, isTop]
  simp only [different, isFree, Option.isSome_none, Bool.false_eq_true, or_false, if_false]
  exact enclosing?_enclose_self store outer isThere

/-- A scope that is linked to one that does not lead to it leads on from there, and so do all that
ended at it. -/
theorem Leads.push_outside
    {other : ScopeId} (leads : Leads store other links) {around : List ScopeId}
    (isTop : store.top? = some outer) (leadsOuter : Leads store outer around)
    (isOutside : scope ∉ around) (isFree : store.enclosing? scope = none) :
    ∃ links, Leads (store.push scope) other links := by
  have sameSize := size_push store scope
  have leadsStill : Leads (store.push scope) outer around :=
    leadsOuter.of_same (Nat.le_of_eq sameSize.symm) fun inner isThere =>
      enclosing?_push_of_ne store fun same => isOutside (same ▸ isThere)
  induction leads with
  | @ends other isOld isLast =>
      by_cases isScope : other = scope
      · subst isScope
        have different : outer ≠ other := fun same =>
          isOutside (same ▸ List.mem_of_head? leadsOuter.head?_eq)
        have isLinked := enclosing?_push_free isOld isFree isTop different
        exact ⟨_, .goesOn isLinked leadsStill⟩
      · exact ⟨_, .ends (sameSize.symm ▸ isOld)
          ((enclosing?_push_of_ne store isScope).trans isLast)⟩
  | @goesOn other next _ isEnclosed _ inductionHypothesis =>
      obtain ⟨further, leadsOn⟩ := inductionHypothesis
      have isOther : other ≠ scope := by
        rintro rfl
        rw [isFree] at isEnclosed
        cases isEnclosed
      exact ⟨_, .goesOn ((enclosing?_push_of_ne store isOther).trans isEnclosed) leadsOn⟩

namespace Grounded

theorem of_settles
    (grounded : Grounded before) (settles : Settles before after)
    (rest : ∀ scope < after.scopes.size, before.scopes.size ≤ scope →
      ∃ links, after.Leads scope links) :
    Grounded after := by
  refine ⟨fun scope isThere => ?_, HoldsStack.of_settles grounded.onStack settles⟩
  by_cases isOld : scope < before.scopes.size
  · obtain ⟨links, leads⟩ := grounded.leads scope isOld
    exact ⟨links, leads.of_settles settles⟩
  · exact rest scope isThere (Nat.le_of_not_lt isOld)

theorem create
    (grounded : Grounded store) {enclosing? : Option ScopeId}
    (isThere : ∀ outer ∈ enclosing?, outer < store.scopes.size) :
    Grounded (store.create enclosing?) := by
  have settles := Settles.create store enclosing?
  refine grounded.of_settles settles fun scope isMade isNew => ?_
  obtain rfl : scope = store.fresh := by
    rw [create_size] at isMade
    exact Nat.le_antisymm (Nat.le_of_lt_succ isMade) isNew
  have isFound : (store.create enclosing?).enclosing? store.fresh = enclosing? := by
    rw [ScopeStore.enclosing?, create_scopes, if_pos rfl, Option.bind_some]
  cases enclosing? with
  | none => exact ⟨_, .ends isMade isFound⟩
  | some outer =>
      obtain ⟨links, leads⟩ := grounded.leads outer (isThere outer rfl)
      exact ⟨_, .goesOn isFound (leads.of_settles settles)⟩

theorem push
    (grounded : Grounded store) (isThere : scope < store.scopes.size)
    (isOpen : ¬ store.ClosesLoop (.push scope)) : Grounded (store.push scope) := by
  have sameSize := size_push store scope
  refine ⟨fun other isOther => ?_, HoldsStack.push grounded.onStack isThere⟩
  obtain ⟨links, leads⟩ := grounded.leads other (sameSize ▸ isOther)
  by_cases isSettled : store.top? = some scope ∨ (store.enclosing? scope).isSome
  · refine ⟨links, leads.of_same (Nat.le_of_eq sameSize.symm) fun inner _ => ?_⟩
    simp only [ScopeStore.push, ScopeStore.enclosing?, attach_eq_self store isSettled]
  · obtain ⟨notTop, notLinked⟩ := not_or.mp isSettled
    have isFree : store.enclosing? scope = none := Option.not_isSome_iff_eq_none.mp notLinked
    cases isTop : store.top? with
    | none =>
        refine ⟨links, leads.of_same (Nat.le_of_eq sameSize.symm) fun inner _ => ?_⟩
        simp only [ScopeStore.push, ScopeStore.attach, isTop, ScopeStore.enclosing?]
    | some outer =>
        have isOld := grounded.onStack outer (List.mem_of_head? isTop)
        obtain ⟨around, leadsOuter⟩ := grounded.leads outer isOld
        have isOutside : scope ∉ around := by
          intro isAround
          rw [← leadsOuter.chain_eq] at isAround
          exact isOpen ⟨isFree, outer, isTop, fun same => notTop (same ▸ isTop), isAround⟩
        exact leads.push_outside isTop leadsOuter isOutside isFree

theorem pop
    (grounded : Grounded store) : Grounded store.pop := by
  refine ⟨fun scope isThere => ?_, HoldsStack.pop grounded.onStack⟩
  obtain ⟨links, leads⟩ := grounded.leads scope isThere
  exact ⟨links, leads.pop⟩

/-- Every scope still leads to an end after a change that closes no loop. -/
theorem change
    {next : Change} (grounded : Grounded store) (admitted : store.Admits next)
    (isOpen : ¬ store.ClosesLoop next) : Grounded (store.change next) := by
  cases next with
  | create enclosing? => exact grounded.create admitted
  | push scope => exact grounded.push admitted isOpen
  | pop => exact grounded.pop
  | insert entry =>
      rw [ScopeStore.change]
      split
      case h_1 filled inserted =>
        refine grounded.of_settles (.of_insert inserted) fun scope isMade isNew => ?_
        rw [insert_size inserted] at isMade
        exact absurd isMade (Nat.not_lt_of_le isNew)
      case h_2 => exact grounded

/-- The search for every key ends. -/
theorem looksUp
    (grounded : Grounded store) (key : Key) : store.LooksUp key (store.lookup? key) :=
  .of_leads (fun scope isTop => grounded.leads scope <|
    grounded.onStack scope (List.mem_of_head? isTop)) key

end Grounded

/-! ## Links that come back -/

/-- A link that was made stays. -/
theorem Link.change
    (link : store.Link scope outer) (next : Change) : (store.change next).Link scope outer := by
  have isOld := lt_size_of_enclosed link
  cases next with
  | create enclosing? => exact ((Settles.create store enclosing?).links scope isOld).trans link
  | push pushed =>
      by_cases isPushed : scope = pushed
      · subst isPushed
        have isLinked : (store.enclosing? scope).isSome := by rw [link]; rfl
        have same : (store.push scope).enclosing? scope = store.enclosing? scope := by
          simp only [push, enclosing?, attach_eq_self store (.inr isLinked)]
        exact same.trans link
      · exact (enclosing?_push_of_ne store isPushed).trans link
  | pop => exact link
  | insert entry =>
      rw [ScopeStore.change]
      split
      case h_1 filled inserted => exact ((Settles.of_insert inserted).links scope isOld).trans link
      case h_2 => exact link

/-- A loop is never opened again. -/
theorem Acyclic.of_change
    {next : Change} (acyclic : (store.change next).Acyclic) : store.Acyclic :=
  fun scope reached => acyclic scope <|
    reached.lift id fun _ _ link => Link.change link next

theorem Acyclic.of_changes
    {several : List Change} (acyclic : (store.changes several).Acyclic) : store.Acyclic := by
  induction several generalizing store with
  | nil => exact acyclic
  | cons first rest inductionHypothesis => exact (inductionHypothesis acyclic).of_change

theorem reaches_of_mem_chainWithin
    {steps : Nat} {inner : ScopeId} (isThere : inner ∈ store.chainWithin steps scope) :
    Relation.ReflTransGen store.Link scope inner := by
  induction steps generalizing scope with
  | zero =>
      obtain rfl := List.mem_singleton.mp isThere
      exact .refl
  | succ steps inductionHypothesis =>
      rw [chainWithin] at isThere
      split at isThere
      case h_1 =>
        obtain rfl := List.mem_singleton.mp isThere
        exact .refl
      case h_2 outer isEnclosed =>
        rcases List.mem_cons.mp isThere with rfl | isFurther
        · exact .refl
        · exact .head isEnclosed (inductionHypothesis isFurther)

/-- The new link leads to the innermost scope, and that one leads back. -/
theorem not_acyclic_of_closesLoop
    {next : Change} (admitted : store.Admits next) (closes : store.ClosesLoop next) :
    ¬ (store.change next).Acyclic := by
  cases next with
  | push scope =>
      obtain ⟨isFree, outer, isTop, different, isAround⟩ := closes
      have isLinked : (store.push scope).Link scope outer :=
        enclosing?_push_free admitted isFree isTop different
      have leadsBack : Relation.ReflTransGen (store.push scope).Link outer scope :=
        (reaches_of_mem_chainWithin isAround).lift id fun _ _ link =>
          Link.change link (.push scope)
      exact fun acyclic => acyclic scope (.head' isLinked leadsBack)
  | create | pop | insert => cases closes

/-- Links that lead to an end pass on to one of themselves, but for the last. -/
theorem Leads.next_mem
    {inner last : ScopeId} (leads : Leads store scope links) (isThere : inner ∈ links)
    (isLast : last ∈ links) (isFree : store.enclosing? last = none) :
    inner = last ∨ ∃ next ∈ links, store.enclosing? inner = some next := by
  induction leads with
  | ends =>
      rw [List.mem_singleton] at isThere isLast
      exact .inl (isThere.trans isLast.symm)
  | @goesOn scope outer _ isEnclosed leadsOn inductionHypothesis =>
      have isFurtherLast := (List.mem_cons.mp isLast).resolve_left <| by
        rintro rfl
        rw [isFree] at isEnclosed
        cases isEnclosed
      rcases List.mem_cons.mp isThere with rfl | isFurther
      · exact .inr ⟨outer, List.mem_cons_of_mem _ (List.mem_of_head? leadsOn.head?_eq), isEnclosed⟩
      · refine (inductionHypothesis isFurther isFurtherLast).imp id ?_
        rintro ⟨next, isNext, isLinked⟩
        exact ⟨next, List.mem_cons_of_mem _ isNext, isLinked⟩

/-- Once a push has closed a loop, no search ends for a key that the scopes of the loop do not
hold. -/
theorem not_looksUp_of_closesLoop
    {key : Key} {answer : Option Entry} (grounded : Grounded store)
    (admitted : store.Admits (.push scope)) (closes : store.ClosesLoop (.push scope))
    (isTop : store.top? = some outer)
    (isFree : ∀ inner ∈ store.chain outer, store.find? inner key = none) :
    ¬ (store.push scope).LooksUp key answer := by
  obtain ⟨notLinked, _, isTopToo, different, isAround⟩ := closes
  obtain rfl := Option.some.inj (isTop.symm.trans isTopToo)
  obtain ⟨around, leads⟩ := grounded.leads outer (grounded.onStack outer (List.mem_of_head? isTop))
  rw [leads.chain_eq] at isFree isAround
  rintro ⟨passed, finds⟩
  refine not_finds (fun inner isThere => ?_) (fun inner isThere => ?_) isAround finds
  · rw [find?_push]
    exact isFree inner isThere
  · by_cases isScope : inner = scope
    · subst isScope
      exact ⟨outer, List.mem_of_head? leads.head?_eq,
        enclosing?_push_free admitted notLinked isTop different⟩
    · obtain ⟨next, isNext, isLinked⟩ :=
        (leads.next_mem isThere isAround notLinked).resolve_left isScope
      exact ⟨next, isNext, (enclosing?_push_of_ne store isScope).trans isLinked⟩

/-! ## Runs of changes -/

theorem Grounded.changes
    {several : List Change} (grounded : Grounded store) (admitted : Along Admits store several)
    (areOpen : Along KeepsOpen store several) : Grounded (store.changes several) := by
  induction several generalizing store with
  | nil => exact grounded
  | cons first rest inductionHypothesis =>
      exact inductionHypothesis (grounded.change admitted.1 areOpen.1) admitted.2 areOpen.2

/-- A run of changes leaves the links without loops just if none of them closes one. -/
theorem acyclic_changes_iff
    {several : List Change} (grounded : Grounded store) (admitted : Along Admits store several) :
    (store.changes several).Acyclic ↔ Along KeepsOpen store several := by
  refine ⟨fun acyclic => ?_, fun areOpen => (grounded.changes admitted areOpen).acyclic⟩
  induction several generalizing store with
  | nil => trivial
  | cons first rest inductionHypothesis =>
      change ((store.change first).changes rest).Acyclic at acyclic
      have isOpen : store.KeepsOpen first := fun closes =>
        not_acyclic_of_closesLoop admitted.1 closes acyclic.of_changes
      exact ⟨isOpen, inductionHypothesis (grounded.change admitted.1 isOpen) admitted.2 acyclic⟩

/-- After any changes that name only scopes of the store, no scope is reached from itself just if
no push has linked a scope to one that led to it already. The search for every key then ends, with
the answer of the lookup. -/
theorem acyclic_iff_no_loop_closed
    (several : List Change) (admitted : Along Admits empty several) :
    ((empty.changes several).Acyclic ↔ Along KeepsOpen empty several) ∧
      (Along KeepsOpen empty several → ∀ key,
        (empty.changes several).LooksUp key ((empty.changes several).lookup? key)) :=
  ⟨acyclic_changes_iff grounded_empty admitted, fun areOpen key =>
    (grounded_empty.changes admitted areOpen).looksUp key⟩

/-- A scope that was left, and one that was made inside another, are entered again. -/
theorem acyclic_iff_no_loop_closed_reentered :
    (empty.changes [.create none, .push 0, .create none, .push 1, .pop, .create (some 0), .push 2,
      .push 1]).Acyclic :=
  (acyclic_iff_no_loop_closed _ (by decide)).1.mpr (by decide)

/-- Two scopes without one around them are pushed by turns. Each then encloses the other, and no
search ends. -/
theorem free_scopes_enclose_each_other :
    Along Admits empty [.create none, .create none, .push 0, .push 1, .push 0] ∧
      ¬ (empty.changes [.create none, .create none, .push 0, .push 1, .push 0]).Acyclic ∧
      ∀ key answer, ¬ (empty.changes
        [.create none, .create none, .push 0, .push 1, .push 0]).LooksUp key answer := by
  have grounded : Grounded (empty.changes [.create none, .create none, .push 0, .push 1]) :=
    grounded_empty.changes (by decide) (by decide)
  have admitted : (empty.changes [.create none, .create none, .push 0, .push 1]).Admits (.push 0) :=
    by decide
  have closes : (empty.changes
      [.create none, .create none, .push 0, .push 1]).ClosesLoop (.push 0) := by decide
  refine ⟨by decide, not_acyclic_of_closesLoop admitted closes, fun key answer => ?_⟩
  refine not_looksUp_of_closesLoop grounded admitted closes rfl fun inner _ => ?_
  match inner with
  | 0 | 1 | _ + 2 => rfl

end StructLang.ScopeStore
