/-!
# Tries

A trie holds a set of non-empty keys with a value for each. Its branches are chained: a branch
stands for one character, with the keys that go on after it below and the branches for other
characters beside it. `longest?` walks down as far as the text allows and then falls back to the
last key it passed.
-/

namespace StructLang

/-- A finite map from non-empty lists of characters, laid out by shared first characters. -/
inductive Trie (value : Type)
  | empty
  | branch (character : Char) (here? : Option value) (below beside : Trie value)
  deriving Repr

namespace Trie

variable {value : Type}

/-- The trie of one key, given by its first character and the others. -/
def single (stored : value) : Char → List Char → Trie value
  | character, [] => .branch character (some stored) .empty .empty
  | character, next :: others => .branch character none (single stored next others) .empty

/-- Adds a key, given by its first character and the others. An older value of the key is
replaced. -/
def insertAux (stored : value) : Trie value → Char → List Char → Trie value
  | .empty, first, others => single stored first others
  | .branch character here? below beside, first, others =>
      if first = character then
        match others with
        | [] => .branch character (some stored) below beside
        | next :: further => .branch character here? (insertAux stored below next further) beside
      else .branch character here? below (insertAux stored beside first others)

/-- Adds a key; the empty key is no key of a trie. -/
def insert (trie : Trie value) (key : List Char) (stored : value) : Trie value :=
  match key with
  | [] => trie
  | first :: others => insertAux stored trie first others

/-- The trie of a table of keys, in which a later entry for a key replaces an earlier one. -/
def ofTable (table : List (List Char × value)) : Trie value :=
  table.foldl (fun trie entry => trie.insert entry.1 entry.2) .empty

/-- The longest key that the text starts with: its value and the text after it. -/
def longest? : Trie value → List Char → Option (value × List Char)
  | .empty, _ => none
  | .branch .., [] => none
  | .branch character here? below beside, first :: others =>
      if first = character then
        match longest? below others with
        | some longer => some longer
        | none => here?.map fun stored => (stored, others)
      else longest? beside (first :: others)

/-- What is left after the longest key is shorter than the text. -/
theorem longest?_length_lt
    {trie : Trie value} {text rest : List Char} {stored : value}
    (found : trie.longest? text = some (stored, rest)) :
    rest.length < text.length := by
  induction trie generalizing text with
  | empty => simp [longest?] at found
  | branch character here? below beside belowHypothesis besideHypothesis =>
      cases text with
      | nil => simp [longest?] at found
      | cons first others =>
          simp only [longest?] at found
          split at found
          · cases deeper : longest? below others with
            | some longer =>
                rw [deeper] at found
                simp only [Option.some.injEq] at found
                subst found
                have shorter := belowHypothesis deeper
                simp only [List.length_cons]
                omega
            | none =>
                rw [deeper] at found
                cases here? with
                | none => simp at found
                | some atEnd =>
                    simp only [Option.map_some, Option.some.injEq, Prod.mk.injEq] at found
                    rw [← found.2]
                    simp
          · exact besideHypothesis found

end Trie

end StructLang
