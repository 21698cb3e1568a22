import StructLang.Proofs.Scope.Links

/-!
# Searches for a key

A search goes from a scope to the one around it until it comes to a scope that holds the key, or
to one that nothing encloses. Where links come back to a scope that was passed, a search for a key
that none of them holds has no end, while `ScopeStore.lookup?` gives up after as many links as the
store has scopes.

- `Finds.answer_eq` : a search that ends gives the answer of the lookup.
- `Leads.exists_finds` : where links lead to an end, the search for every key ends.
- `not_finds` : among scopes that lead to each other only, the search for a key that none of them
  holds does not end.
-/

namespace StructLang.ScopeStore

variable {store : ScopeStore} {scope outer : ScopeId} {key : Key} {answer answerToo : Option Entry}
  {passed : List ScopeId}

/-- The search for a key passes these scopes, of which none holds the key, and ends with this
answer at the scope after them. -/
inductive Finds (store : ScopeStore) (key : Key) :
    ScopeId → List ScopeId → Option Entry → Prop
  | here {scope : ScopeId} {entry : Entry} :
      store.find? scope key = some entry → Finds store key scope [] (some entry)
  | nowhere {scope : ScopeId} :
      store.find? scope key = none → store.enclosing? scope = none →
        Finds store key scope [] none
  | outwards {scope outer : ScopeId} {passed : List ScopeId} {answer : Option Entry} :
      store.find? scope key = none → store.enclosing? scope = some outer →
        Finds store key outer passed answer → Finds store key scope (scope :: passed) answer

namespace Finds

/-- Every scope leads on in one way only. -/
theorem unique
    {passedToo : List ScopeId} (finds : Finds store key scope passed answer)
    (findsToo : Finds store key scope passedToo answerToo) :
    passedToo = passed ∧ answerToo = answer := by
  induction finds generalizing passedToo with
  | here isHeld =>
      cases findsToo with
      | here isHeldToo => exact ⟨rfl, isHeldToo.symm.trans isHeld⟩
      | nowhere notHeld => rw [isHeld] at notHeld; cases notHeld
      | outwards notHeld => rw [isHeld] at notHeld; cases notHeld
  | nowhere notHeld isLast =>
      cases findsToo with
      | here isHeld => rw [notHeld] at isHeld; cases isHeld
      | nowhere => exact ⟨rfl, rfl⟩
      | outwards _ isEnclosed => rw [isLast] at isEnclosed; cases isEnclosed
  | outwards notHeld isEnclosed _ inductionHypothesis =>
      cases findsToo with
      | here isHeld => rw [notHeld] at isHeld; cases isHeld
      | nowhere _ isLast => rw [isEnclosed] at isLast; cases isLast
      | outwards _ isEnclosedToo findsOn =>
          rw [isEnclosed, Option.some.injEq] at isEnclosedToo
          subst isEnclosedToo
          obtain ⟨rfl, rfl⟩ := inductionHypothesis findsOn
          exact ⟨rfl, rfl⟩

/-- From every scope that is passed the search goes on along the rest of the way. -/
theorem from_mem
    {inner : ScopeId} (finds : Finds store key scope passed answer) (isPassed : inner ∈ passed) :
    ∃ rest, Finds store key inner rest answer ∧ rest <:+ passed := by
  induction finds with
  | here | nowhere => cases isPassed
  | outwards notHeld isEnclosed findsOn inductionHypothesis =>
      rcases List.mem_cons.mp isPassed with rfl | isFurther
      · exact ⟨_, .outwards notHeld isEnclosed findsOn, List.suffix_rfl⟩
      · obtain ⟨rest, findsRest, isSuffix⟩ := inductionHypothesis isFurther
        exact ⟨rest, findsRest, isSuffix.trans (List.suffix_cons _ _)⟩

/-- From a scope that came back the search would end sooner than before. -/
theorem nodup
    (finds : Finds store key scope passed answer) : passed.Nodup := by
  induction finds with
  | here | nowhere => exact List.nodup_nil
  | outwards notHeld isEnclosed findsOn inductionHypothesis =>
      refine List.nodup_cons.mpr ⟨fun comesBack => ?_, inductionHypothesis⟩
      obtain ⟨rest, findsRest, isSuffix⟩ := findsOn.from_mem comesBack
      have same := ((Finds.outwards notHeld isEnclosed findsOn).unique findsRest).1
      have shorter := isSuffix.length_le
      rw [same, List.length_cons] at shorter
      omega

theorem lt_size
    {inner : ScopeId} (finds : Finds store key scope passed answer) (isPassed : inner ∈ passed) :
    inner < store.scopes.size := by
  induction finds with
  | here | nowhere => cases isPassed
  | outwards _ isEnclosed _ inductionHypothesis =>
      rcases List.mem_cons.mp isPassed with rfl | isFurther
      · exact lt_size_of_enclosed isEnclosed
      · exact inductionHypothesis isFurther

theorem length_le_size
    (finds : Finds store key scope passed answer) : passed.length ≤ store.scopes.size := by
  have bounded : passed ⊆ List.range store.scopes.size := fun inner isPassed =>
    List.mem_range.mpr (finds.lt_size isPassed)
  simpa using finds.nodup.length_le_of_subset bounded

theorem findSome?_chainWithin
    {steps : Nat} (finds : Finds store key scope passed answer)
    (enough : passed.length ≤ steps) :
    (store.chainWithin steps scope).findSome? (store.find? · key) = answer := by
  induction finds generalizing steps with
  | here isHeld =>
      cases steps with
      | zero => simp [chainWithin, isHeld]
      | succ => rw [chainWithin]; split <;> simp [isHeld]
  | nowhere notHeld isLast => cases steps <;> simp [chainWithin, isLast, notHeld]
  | outwards notHeld isEnclosed _ inductionHypothesis =>
      cases steps with
      | zero => cases enough
      | succ steps =>
          have further := inductionHypothesis (Nat.le_of_succ_le_succ enough)
          simp [chainWithin, isEnclosed, notHeld, further]

/-- As many links as the store has scopes are enough for every search that ends. -/
theorem findSome?_chain
    (finds : Finds store key scope passed answer) :
    (store.chain scope).findSome? (store.find? · key) = answer :=
  finds.findSome?_chainWithin finds.length_le_size

end Finds

/-- Where links lead to an end, so does the search for every key. -/
theorem Leads.exists_finds
    {links : List ScopeId} (leads : Leads store scope links) (key : Key) :
    ∃ passed answer, Finds store key scope passed answer := by
  induction leads with
  | @ends scope _ isLast =>
      cases isFound : store.find? scope key with
      | none => exact ⟨_, _, .nowhere isFound isLast⟩
      | some entry => exact ⟨_, _, .here isFound⟩
  | @goesOn scope outer _ isEnclosed _ inductionHypothesis =>
      cases isFound : store.find? scope key with
      | none =>
          obtain ⟨passed, answer, finds⟩ := inductionHypothesis
          exact ⟨_, _, .outwards isFound isEnclosed finds⟩
      | some entry => exact ⟨_, _, .here isFound⟩

/-- Among scopes that lead to each other only, no search for a key ends that none of them
holds. -/
theorem not_finds
    {among : ScopeId → Prop} (isFree : ∀ scope, among scope → store.find? scope key = none)
    (leadsOn : ∀ scope, among scope → ∃ outer, among outer ∧ store.enclosing? scope = some outer)
    (isAmong : among scope) : ¬ Finds store key scope passed answer := by
  intro finds
  induction finds with
  | here isHeld =>
      rw [isFree _ isAmong] at isHeld
      cases isHeld
  | nowhere _ isLast =>
      obtain ⟨outer, -, isEnclosed⟩ := leadsOn _ isAmong
      rw [isLast] at isEnclosed
      cases isEnclosed
  | outwards _ isEnclosed _ inductionHypothesis =>
      obtain ⟨outer, isAmongToo, isEnclosedToo⟩ := leadsOn _ isAmong
      rw [isEnclosed, Option.some.injEq] at isEnclosedToo
      exact inductionHypothesis (isEnclosedToo ▸ isAmongToo)

/-! ## Lookups -/

/-- The search for a key from the innermost scope of the stack ends with this answer. Without a
scope on the stack there is nothing to search. -/
def LooksUp (store : ScopeStore) (key : Key) (answer : Option Entry) : Prop :=
  match store.top? with
  | none => answer = none
  | some scope => ∃ passed, Finds store key scope passed answer

namespace LooksUp

/-- A lookup gives the answer of the search wherever that ends. -/
theorem lookup?_eq
    (looksUp : LooksUp store key answer) : store.lookup? key = answer := by
  rw [LooksUp] at looksUp
  rw [lookup?]
  split at looksUp
  case h_1 isEmpty => rw [isEmpty, looksUp, Option.bind_none]
  case h_2 scope isTop =>
    obtain ⟨passed, finds⟩ := looksUp
    rw [isTop, Option.bind_some, finds.findSome?_chain]

/-- The search ends where the links from the innermost scope do. -/
theorem of_leads
    (leads : ∀ scope, store.top? = some scope → ∃ links, Leads store scope links) (key : Key) :
    LooksUp store key (store.lookup? key) := by
  have ends : ∃ answer, LooksUp store key answer := by
    simp only [LooksUp]
    split
    case h_1 => exact ⟨none, rfl⟩
    case h_2 scope isTop =>
      obtain ⟨links, leads⟩ := leads scope isTop
      obtain ⟨passed, answer, finds⟩ := leads.exists_finds key
      exact ⟨answer, passed, finds⟩
  obtain ⟨answer, looksUp⟩ := ends
  rw [looksUp.lookup?_eq]
  exact looksUp

end LooksUp

end StructLang.ScopeStore
