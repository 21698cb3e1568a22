import StructLang.Proofs.Written

/-!
# Names of declarations

Declarations are given their names one after the other. A declaration whose name is taken is known
under a made-up name, which holds a sign that no written name has and a number that no earlier
made-up name has. So among written names a made-up name is never taken.
-/

namespace StructLang

/-! ## Made-up names -/

/-- The made-up name of a struct or function. -/
def numbered (count : Nat) : String := s!"{count}@"

/-- The made-up name of an accessor. -/
def suffixed (name : String) (count : Nat) : String := s!"{name}@{count}"

/-- A name was made up with a number. -/
inductive UsesNumber : String → Nat → Prop
  | numbered (count : Nat) : UsesNumber (numbered count) count
  | suffixed {name : String} (count : Nat) :
      PlainName name → UsesNumber (suffixed name count) count

theorem toList_numbered
    (count : Nat) :
    (numbered count).toList = (Nat.repr count).toList ++ ['@'] := by
  simp [numbered, toString]

theorem toList_suffixed
    (name : String) (count : Nat) :
    (suffixed name count).toList = name.toList ++ '@' :: (Nat.repr count).toList := by
  simp [suffixed, toString]

theorem plainName_repr
    (count : Nat) : PlainName (Nat.repr count) := by
  intro member
  have isDigit := Nat.isDigit_of_mem_toDigits (b := 10) (by decide) (by decide)
    (by simpa [Nat.repr] using member)
  exact absurd isDigit (by decide)

theorem eq_of_toList_repr
    {count otherCount : Nat}
    (same : (Nat.repr count).toList = (Nat.repr otherCount).toList) :
    count = otherCount := by
  have values := congrArg (Nat.ofDigitChars 10 · 0) same
  simpa using values

/-- Before its first sign and after it, a text with that sign is determined. -/
theorem append_sign_inj
    {before otherBefore after otherAfter : List Char}
    (plain : '@' ∉ before) (otherPlain : '@' ∉ otherBefore)
    (same : before ++ '@' :: after = otherBefore ++ '@' :: otherAfter) :
    before = otherBefore ∧ after = otherAfter := by
  induction before generalizing otherBefore with
  | nil =>
      cases otherBefore with
      | nil => exact ⟨rfl, List.tail_eq_of_cons_eq same⟩
      | cons head tail =>
          exact absurd (List.head_eq_of_cons_eq same ▸ List.mem_cons_self) otherPlain
  | cons head tail inductionHypothesis =>
      cases otherBefore with
      | nil => exact absurd (List.head_eq_of_cons_eq same ▸ List.mem_cons_self) plain
      | cons otherHead otherTail =>
          obtain ⟨rfl, rfl⟩ := inductionHypothesis (fun member => plain (.tail _ member))
            (fun member => otherPlain (.tail _ member)) (List.tail_eq_of_cons_eq same)
          exact ⟨by rw [List.head_eq_of_cons_eq same], rfl⟩

theorem UsesNumber.not_plain
    {name : String} {count : Nat} (uses : UsesNumber name count) : ¬ PlainName name := by
  cases uses with
  | numbered => simp [PlainName, toList_numbered]
  | suffixed => simp [PlainName, toList_suffixed]

theorem UsesNumber.number_eq
    {name : String} {count otherCount : Nat}
    (uses : UsesNumber name count) (usesToo : UsesNumber name otherCount) :
    count = otherCount := by
  generalize isOther : name = other at usesToo
  have same : name.toList = other.toList := by rw [isOther]
  cases uses with
  | numbered =>
      cases usesToo with
      | numbered =>
          rw [toList_numbered, toList_numbered] at same
          have digits := (append_sign_inj (plainName_repr _) (plainName_repr _) same).1
          exact eq_of_toList_repr digits
      | suffixed _ plain =>
          rw [toList_numbered, toList_suffixed] at same
          have rest := (append_sign_inj (plainName_repr _) plain same).2
          exact absurd (String.toList_eq_nil_iff.mp rest.symm) Nat.repr_ne_empty
  | suffixed _ plain =>
      cases usesToo with
      | numbered =>
          rw [toList_suffixed, toList_numbered] at same
          have rest := (append_sign_inj plain (plainName_repr _) same).2
          exact absurd (String.toList_eq_nil_iff.mp rest) Nat.repr_ne_empty
      | suffixed _ otherPlain =>
          rw [toList_suffixed, toList_suffixed] at same
          have digits := (append_sign_inj plain otherPlain same).2
          exact eq_of_toList_repr digits

/-! ## Giving names one after the other -/

/-- The names that were given so far, in order, and the number of made-up names so far. -/
structure Naming where
  taken : List String
  made : Nat
  deriving DecidableEq, Repr

namespace Naming

/-- The name under which a declaration with a name is known. -/
def known (naming : Naming) (makeUp : Nat → String) (name : String) : String :=
  if name ∈ naming.taken then makeUp (naming.made + 1) else name

/-- The naming after one more declaration. -/
def next (naming : Naming) (makeUp : Nat → String) (name : String) : Naming :=
  ⟨naming.taken ++ [naming.known makeUp name],
    if name ∈ naming.taken then naming.made + 1 else naming.made⟩

/-- The naming after more structs or functions. -/
def afterAll (naming : Naming) (names : List String) : Naming :=
  names.foldl (fun reached name => reached.next numbered name) naming

/-- Whether no made-up name can be taken. -/
def Fresh (naming : Naming) : Prop :=
  ∀ name ∈ naming.taken, PlainName name ∨ ∃ count ≤ naming.made, UsesNumber name count

variable {naming : Naming} {makeUp : Nat → String} {name : String}

theorem known_of_free
    (isFree : name ∉ naming.taken) : naming.known makeUp name = name :=
  if_neg isFree

theorem known_of_taken
    (isTaken : name ∈ naming.taken) :
    naming.known makeUp name = makeUp (naming.made + 1) :=
  if_pos isTaken

theorem next_of_free
    (isFree : name ∉ naming.taken) :
    naming.next makeUp name = ⟨naming.taken ++ [name], naming.made⟩ := by
  rw [next, known_of_free isFree, if_neg isFree]

theorem next_of_taken
    (isTaken : name ∈ naming.taken) :
    naming.next makeUp name =
      ⟨naming.taken ++ [makeUp (naming.made + 1)], naming.made + 1⟩ := by
  rw [next, known_of_taken isTaken, if_pos isTaken]

theorem Fresh.notMem
    (fresh : naming.Fresh) (uses : UsesNumber (makeUp (naming.made + 1)) (naming.made + 1)) :
    makeUp (naming.made + 1) ∉ naming.taken := by
  intro isTaken
  rcases fresh _ isTaken with plain | ⟨count, atMost, usesToo⟩
  · exact uses.not_plain plain
  · have same := uses.number_eq usesToo
    omega

theorem Fresh.next
    (fresh : naming.Fresh) (plain : PlainName name)
    (uses : ∀ count, UsesNumber (makeUp count) count) :
    (naming.next makeUp name).Fresh := by
  intro other member
  by_cases isTaken : name ∈ naming.taken
  · rw [next_of_taken isTaken] at member ⊢
    rcases List.mem_append.mp member with isOld | isNew
    · refine (fresh other isOld).imp id fun ⟨count, atMost, usesCount⟩ =>
        ⟨count, Nat.le_succ_of_le atMost, usesCount⟩
    · obtain rfl := List.mem_singleton.mp isNew
      exact Or.inr ⟨_, Nat.le_refl _, uses _⟩
  · rw [next_of_free isTaken] at member ⊢
    rcases List.mem_append.mp member with isOld | isNew
    · exact fresh other isOld
    · obtain rfl := List.mem_singleton.mp isNew
      exact Or.inl plain

theorem fresh_empty
    (made : Nat) : Fresh ⟨[], made⟩ :=
  fun _ => nofun

theorem afterAll_cons
    (naming : Naming) (head : String) (tail : List String) :
    naming.afterAll (head :: tail) = (naming.next numbered head).afterAll tail := rfl

/-- As long as no name is given that is taken, the names are distinct. -/
theorem nodup_next
    (distinct : naming.taken.Nodup) (isFree : naming.known makeUp name ∉ naming.taken) :
    (naming.next makeUp name).taken.Nodup := by
  refine List.nodup_append.mpr ⟨distinct, by simp, fun old isTaken new isNew same => ?_⟩
  exact isFree (List.mem_singleton.mp isNew ▸ same ▸ isTaken)

/-- The names that were given stay in front. -/
theorem prefix_afterAll
    (naming : Naming) (names : List String) :
    ∃ new, (naming.afterAll names).taken = naming.taken ++ new ∧
      new.length = names.length := by
  induction names generalizing naming with
  | nil => exact ⟨[], by simp [afterAll]⟩
  | cons head tail inductionHypothesis =>
      obtain ⟨new, isNew, sameLength⟩ := inductionHypothesis (naming.next numbered head)
      refine ⟨naming.known numbered head :: new, ?_, by simp [sameLength]⟩
      rw [afterAll_cons, isNew, next, List.append_assoc]
      rfl

theorem length_afterAll
    (naming : Naming) (names : List String) :
    (naming.afterAll names).taken.length = naming.taken.length + names.length := by
  obtain ⟨new, isNew, sameLength⟩ := naming.prefix_afterAll names
  rw [isNew, List.length_append, sameLength]

theorem notMem_next
    {head : String} (isFree : head ∉ naming.taken) :
    name ∉ (naming.next numbered head).taken ↔ name ∉ naming.taken ∧ name ≠ head := by
  rw [next_of_free isFree, List.mem_append, List.mem_singleton, not_or]

/-- After one of some distinct names that are not taken, the others are not taken either. -/
theorem areFree_next
    {head : String} {tail : List String} (distinct : (head :: tail).Nodup)
    (areFree : ∀ name ∈ head :: tail, name ∉ naming.taken) :
    ∀ name ∈ tail, name ∉ (naming.next numbered head).taken := by
  intro name isThere
  refine (notMem_next (areFree head List.mem_cons_self)).mpr ⟨areFree name (.tail _ isThere), ?_⟩
  rintro rfl
  exact (List.nodup_cons.mp distinct).1 isThere

/-- Distinct names that are not taken are kept. -/
theorem afterAll_of_distinct
    {names : List String} (distinct : names.Nodup)
    (areFree : ∀ name ∈ names, name ∉ naming.taken) :
    naming.afterAll names = ⟨naming.taken ++ names, naming.made⟩ := by
  induction names generalizing naming with
  | nil => simp [afterAll]
  | cons head tail inductionHypothesis =>
      have isFree := areFree head List.mem_cons_self
      have areFreeNext := areFree_next distinct areFree
      rw [afterAll_cons, inductionHypothesis (List.nodup_cons.mp distinct).2 areFreeNext,
        next_of_free isFree]
      simp

end Naming

end StructLang
