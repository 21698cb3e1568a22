import Mathlib.Data.List.Induction
import StructLang.Token.Trie

/-!
# Tries and their tables

A trie is read as a finite map: `get?` gives what is stored under a key.

* A trie that was built from a table stores under a key what the last entry for that key says.
* The search of a trie finds the longest key at the start of a text, with what is stored under it.
* The search fails exactly if no key stands at the start of the text.
-/

namespace StructLang.Trie

variable {value : Type}

/-- What is stored under a key. -/
def get? : Trie value → List Char → Option value
  | .empty, _ => none
  | .branch .., [] => none
  | .branch character here? below beside, first :: others =>
      if first = character then
        match others with
        | [] => here?
        | next :: further => get? below (next :: further)
      else get? beside (first :: others)

theorem get?_nil
    (trie : Trie value) : trie.get? [] = none := by
  cases trie <;> rfl

/-! ## Building -/

theorem get?_single
    (stored : value) (first : Char) (others key : List Char) :
    (single stored first others).get? key =
      if key = first :: others then some stored else none := by
  induction others generalizing first key with
  | nil =>
      cases key with
      | nil => rfl
      | cons head tail =>
          by_cases headEq : head = first
          · cases tail <;> simp [single, get?, headEq]
          · simp [single, get?, headEq]
  | cons next further inductionHypothesis =>
      cases key with
      | nil => rfl
      | cons head tail =>
          by_cases headEq : head = first
          · cases tail with
            | nil => simp [single, get?, headEq]
            | cons second rest =>
                simp [single, get?, headEq, inductionHypothesis]
          · simp [single, get?, headEq]

theorem get?_insertAux
    (stored : value) (trie : Trie value) (first : Char) (others key : List Char) :
    (insertAux stored trie first others).get? key =
      if key = first :: others then some stored else trie.get? key := by
  induction trie generalizing first others key with
  | empty =>
      rw [insertAux, get?_single]
      rfl
  | branch character here? below beside belowHypothesis besideHypothesis =>
      cases key with
      | nil => simp [get?_nil]
      | cons head tail =>
          by_cases firstEq : first = character
          · by_cases headEq : head = character
            · -- The key goes on below the branch, like the new one.
              cases others with
              | nil =>
                  cases tail <;> simp [insertAux, get?, firstEq, headEq]
              | cons next further =>
                  cases tail with
                  | nil => simp [insertAux, get?, firstEq, headEq]
                  | cons second rest =>
                      simp [insertAux, get?, firstEq, headEq, belowHypothesis]
            · have different : head ≠ first := fun same => headEq (same.trans firstEq)
              cases others <;> simp [insertAux, get?, firstEq, headEq]
          · by_cases headEq : head = character
            · have different : head ≠ first := fun same => firstEq (same.symm.trans headEq)
              cases others <;> simp [insertAux, get?, firstEq, headEq, Ne.symm firstEq]
            · cases others <;>
                simp [insertAux, get?, firstEq, headEq, besideHypothesis]

theorem get?_insert
    (trie : Trie value) {key : List Char} (notEmpty : key ≠ []) (stored : value)
    (other : List Char) :
    (trie.insert key stored).get? other =
      if other = key then some stored else trie.get? other := by
  cases key with
  | nil => exact absurd rfl notEmpty
  | cons first others => exact get?_insertAux stored trie first others other

/-- Under a key stands what the last entry of the table for that key says. -/
theorem get?_ofTable
    {table : List (List Char × value)} (notEmpty : ∀ entry ∈ table, entry.1 ≠ [])
    (key : List Char) :
    (ofTable table).get? key = table.reverse.lookup key := by
  induction table using List.reverseRecOn with
  | nil => rfl
  | append_singleton earlier last inductionHypothesis =>
      obtain ⟨lastKey, stored⟩ := last
      have lastNotEmpty : lastKey ≠ [] := notEmpty (lastKey, stored) (by simp)
      have earlierFound : (ofTable earlier).get? key = earlier.reverse.lookup key :=
        inductionHypothesis fun entry member =>
          notEmpty entry (List.mem_append_left _ member)
      have built : ofTable (earlier ++ [(lastKey, stored)]) =
          (ofTable earlier).insert lastKey stored := by
        simp [ofTable]
      rw [built, get?_insert _ lastNotEmpty, earlierFound, List.reverse_append]
      by_cases isKey : key = lastKey
      · simp [isKey]
      · simp [isKey, List.lookup_cons, beq_eq_false_iff_ne.mpr isKey]

/-! ## Searching -/

/-- A key with what is stored under it stands at the start of a text, and no longer key does. -/
structure LongestAt (trie : Trie value) (text key rest : List Char) (stored : value) : Prop where
  split : text = key ++ rest
  found : trie.get? key = some stored
  longest : ∀ other, other <+: text → (trie.get? other).isSome → other.length ≤ key.length

/-- No key stands at the start of a text. -/
def NoneAt (trie : Trie value) (text : List Char) : Prop :=
  ∀ key, key <+: text → trie.get? key = none

theorem NoneAt.nil
    (trie : Trie value) : trie.NoneAt [] := by
  intro key isPrefix
  rw [List.prefix_nil.mp isPrefix]
  exact get?_nil trie

section Branch

variable {character first : Char} {here? : Option value} {below beside : Trie value}
  {others : List Char}

theorem get?_branch_self_nil :
    (branch character here? below beside).get? [character] = here? := by
  simp [get?]

theorem get?_branch_self_cons
    {key : List Char} (notEmpty : key ≠ []) :
    (branch character here? below beside).get? (character :: key) = below.get? key := by
  cases key with
  | nil => exact absurd rfl notEmpty
  | cons next further => simp [get?]

theorem get?_branch_other
    (different : first ≠ character) (key : List Char) :
    (branch character here? below beside).get? (first :: key) = beside.get? (first :: key) := by
  simp [get?, different]

/-- A key that starts like the branch is the branch itself or goes on below it. -/
theorem cases_of_prefix_cons
    {key : List Char} (isPrefix : key <+: character :: others) :
    key = [] ∨ key = [character] ∨
      ∃ further, further ≠ [] ∧ further <+: others ∧ key = character :: further := by
  cases key with
  | nil => exact Or.inl rfl
  | cons head tail =>
      obtain ⟨rfl, tailPrefix⟩ := List.cons_prefix_cons.mp isPrefix
      by_cases tailEmpty : tail = []
      · exact Or.inr (Or.inl (by rw [tailEmpty]))
      · exact Or.inr (Or.inr ⟨tail, tailEmpty, tailPrefix, rfl⟩)

theorem LongestAt.of_below
    {key rest : List Char} {stored : value} (longest : below.LongestAt others key rest stored) :
    (branch character here? below beside).LongestAt (character :: others) (character :: key)
      rest stored := by
  have notEmpty : key ≠ [] := by
    intro isEmpty
    have found := longest.found
    rw [isEmpty, get?_nil] at found
    cases found
  refine ⟨by rw [longest.split]; rfl, ?_, ?_⟩
  · rw [get?_branch_self_cons notEmpty]
    exact longest.found
  · intro other isPrefix isStored
    rcases cases_of_prefix_cons isPrefix with
      rfl | rfl | ⟨further, furtherNotEmpty, furtherPrefix, rfl⟩
    · simp
    · simp
    · rw [get?_branch_self_cons furtherNotEmpty] at isStored
      have bound := longest.longest further furtherPrefix isStored
      simpa using bound

theorem LongestAt.of_here
    {stored : value} (isHere : here? = some stored) (noneBelow : below.NoneAt others) :
    (branch character here? below beside).LongestAt (character :: others) [character] others
      stored := by
  refine ⟨rfl, by rw [get?_branch_self_nil, isHere], ?_⟩
  intro other isPrefix isStored
  rcases cases_of_prefix_cons isPrefix with
    rfl | rfl | ⟨further, furtherNotEmpty, furtherPrefix, rfl⟩
  · simp
  · simp
  · rw [get?_branch_self_cons furtherNotEmpty, noneBelow further furtherPrefix] at isStored
    cases isStored

theorem NoneAt.branch
    (notHere : here? = none) (noneBelow : below.NoneAt others) :
    (branch character here? below beside).NoneAt (character :: others) := by
  intro key isPrefix
  rcases cases_of_prefix_cons isPrefix with
    rfl | rfl | ⟨further, furtherNotEmpty, furtherPrefix, rfl⟩
  · exact get?_nil _
  · rw [get?_branch_self_nil, notHere]
  · rw [get?_branch_self_cons furtherNotEmpty, noneBelow further furtherPrefix]

theorem get?_branch_longer
    (different : first ≠ character) {key : List Char} (isPrefix : key <+: first :: others) :
    (branch character here? below beside).get? key = beside.get? key := by
  cases key with
  | nil => rw [get?_nil, get?_nil]
  | cons head tail =>
      obtain ⟨rfl, -⟩ := List.cons_prefix_cons.mp isPrefix
      exact get?_branch_other different tail

end Branch

/-- What the search of a trie says of a text. -/
theorem longest?_spec
    (trie : Trie value) (text : List Char) :
    match trie.longest? text with
    | some (stored, rest) => ∃ key, trie.LongestAt text key rest stored
    | none => trie.NoneAt text := by
  induction trie generalizing text with
  | empty => exact fun _ _ => rfl
  | branch character here? below beside belowHypothesis besideHypothesis =>
      cases text with
      | nil => exact NoneAt.nil _
      | cons first others =>
          by_cases firstEq : first = character
          · subst firstEq
            have belowSpec := belowHypothesis others
            cases deeper : below.longest? others with
            | some longer =>
                rw [deeper] at belowSpec
                obtain ⟨key, isLongest⟩ := belowSpec
                simp only [longest?, if_pos, deeper]
                exact ⟨first :: key, isLongest.of_below⟩
            | none =>
                rw [deeper] at belowSpec
                cases here? with
                | some stored =>
                    simp only [longest?, if_pos, deeper, Option.map_some]
                    exact ⟨[first], LongestAt.of_here rfl belowSpec⟩
                | none =>
                    simp only [longest?, if_pos, deeper, Option.map_none]
                    exact NoneAt.branch rfl belowSpec
          · have sameSearch :
                (branch character here? below beside).longest? (first :: others) =
                  beside.longest? (first :: others) := by
              simp [longest?, firstEq]
            have besideSpec := besideHypothesis (first :: others)
            rw [sameSearch]
            cases found : beside.longest? (first :: others) with
            | some pair =>
                rw [found] at besideSpec
                obtain ⟨key, split, isFound, longest⟩ := besideSpec
                have keyPrefix : key <+: first :: others := ⟨pair.2, split.symm⟩
                refine ⟨key, split, ?_, ?_⟩
                · rw [get?_branch_longer firstEq keyPrefix]
                  exact isFound
                · intro other isPrefix isStored
                  rw [get?_branch_longer firstEq isPrefix] at isStored
                  exact longest other isPrefix isStored
            | none =>
                rw [found] at besideSpec
                intro key isPrefix
                rw [get?_branch_longer firstEq isPrefix]
                exact besideSpec key isPrefix

/-- There is one longest key. -/
theorem LongestAt.unique
    {trie : Trie value} {text key otherKey rest otherRest : List Char} {stored other : value}
    (isLongest : trie.LongestAt text key rest stored)
    (isLongestToo : trie.LongestAt text otherKey otherRest other) :
    key = otherKey ∧ rest = otherRest ∧ stored = other := by
  have keyPrefix : key <+: text := ⟨rest, isLongest.split.symm⟩
  have otherPrefix : otherKey <+: text := ⟨otherRest, isLongestToo.split.symm⟩
  have notLonger := isLongestToo.longest key keyPrefix (by simp [isLongest.found])
  have notShorter := isLongest.longest otherKey otherPrefix (by simp [isLongestToo.found])
  have sameLength : key.length = otherKey.length := Nat.le_antisymm notLonger notShorter
  have sameText : key ++ rest = otherKey ++ otherRest :=
    isLongest.split.symm.trans isLongestToo.split
  obtain ⟨rfl, rfl⟩ := List.append_inj sameText sameLength
  have sameStored : some stored = some other :=
    isLongest.found.symm.trans isLongestToo.found
  exact ⟨rfl, rfl, Option.some.inj sameStored⟩

theorem longest?_eq_some_iff
    {trie : Trie value} {text rest : List Char} {stored : value} :
    trie.longest? text = some (stored, rest) ↔ ∃ key, trie.LongestAt text key rest stored := by
  have spec := longest?_spec trie text
  constructor
  · intro found
    rw [found] at spec
    exact spec
  · rintro ⟨key, isLongest⟩
    cases found : trie.longest? text with
    | some pair =>
        rw [found] at spec
        obtain ⟨otherKey, isLongestToo⟩ := spec
        obtain ⟨-, rfl, rfl⟩ := isLongest.unique isLongestToo
        rfl
    | none =>
        rw [found] at spec
        have missing := spec key ⟨rest, isLongest.split.symm⟩
        rw [isLongest.found] at missing
        cases missing

theorem longest?_eq_none_iff
    {trie : Trie value} {text : List Char} :
    trie.longest? text = none ↔ trie.NoneAt text := by
  have spec := longest?_spec trie text
  constructor
  · intro found
    rw [found] at spec
    exact spec
  · intro noneAt
    cases found : trie.longest? text with
    | none => rfl
    | some pair =>
        rw [found] at spec
        obtain ⟨key, isLongest⟩ := spec
        have missing := noneAt key ⟨pair.2, isLongest.split.symm⟩
        rw [isLongest.found] at missing
        cases missing

end StructLang.Trie
