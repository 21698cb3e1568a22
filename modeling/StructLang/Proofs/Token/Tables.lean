import Mathlib.Data.List.Nodup
import StructLang.Proofs.Token.Trie
import StructLang.Token.Scan

/-!
# Tables of marks

A table gives each of its keys a value. The trie of a table finds the longest key of the table at
the start of a text, wherever the entries stand in the table. A search may pass keys on its way and
go on beyond the last of them, into characters that only longer keys have. It falls back to that key
then. Seen as a walk, it goes down one character at a time and keeps the last key that it passed.

- `Trie.longest?_ofTable_eq_some_iff`, `Trie.longest?_ofTable_eq_none_iff` : the search by the table.
- `Trie.walk_eq` : the walk is the search.
- `Scan.longest_mark_read` : the mark that is read at a place of a text, for every table of marks.
-/

namespace StructLang

/-! ## The search by the table -/

namespace Trie

section Table

variable {value : Type} {table : List (List Char × value)} {text key rest : List Char}
  {stored : value}

/-- An entry of a table stands at the start of a text, and none with a longer key does. -/
structure LongestEntry (table : List (List Char × value)) (text key rest : List Char)
    (stored : value) : Prop where
  member : (key, stored) ∈ table
  split : text = key ++ rest
  longest : ∀ entry ∈ table, entry.1 <+: text → entry.1.length ≤ key.length

/-- A table that has no key twice gives each key the value that stands beside it. -/
theorem lookup_eq_some_iff
    (distinct : (table.map Prod.fst).Nodup) :
    table.lookup key = some stored ↔ (key, stored) ∈ table := by
  rw [List.lookup_eq_some_iff]
  constructor
  · rintro ⟨before, after, rfl, -⟩
    simp
  · intro member
    obtain ⟨before, after, rfl⟩ := List.append_of_mem member
    refine ⟨before, after, rfl, ?_⟩
    intro other isBefore
    rw [List.map_append] at distinct
    have different := (List.nodup_append.mp distinct).2.2 other.1
      (List.mem_map_of_mem isBefore) key (by simp)
    exact bne_iff_ne.mpr (Ne.symm different)

theorem get?_ofTable_eq_some_iff
    (distinct : (table.map Prod.fst).Nodup) (notEmpty : ∀ entry ∈ table, entry.1 ≠ []) :
    (ofTable table).get? key = some stored ↔ (key, stored) ∈ table := by
  have distinctToo : (table.reverse.map Prod.fst).Nodup := by
    rw [List.map_reverse]
    exact List.nodup_reverse.mpr distinct
  rw [get?_ofTable notEmpty, lookup_eq_some_iff distinctToo, List.mem_reverse]

theorem isSome_get?_ofTable_iff
    (distinct : (table.map Prod.fst).Nodup) (notEmpty : ∀ entry ∈ table, entry.1 ≠ []) :
    ((ofTable table).get? key).isSome ↔ ∃ entry ∈ table, entry.1 = key := by
  rw [Option.isSome_iff_exists]
  constructor
  · rintro ⟨stored, isStored⟩
    exact ⟨_, (get?_ofTable_eq_some_iff distinct notEmpty).mp isStored, rfl⟩
  · rintro ⟨⟨key, stored⟩, member, rfl⟩
    exact ⟨stored, (get?_ofTable_eq_some_iff distinct notEmpty).mpr member⟩

/-- The search finds the longest key of the table, with its value. -/
theorem longest?_ofTable_eq_some_iff
    (distinct : (table.map Prod.fst).Nodup) (notEmpty : ∀ entry ∈ table, entry.1 ≠ []) :
    (ofTable table).longest? text = some (stored, rest) ↔
      ∃ key, LongestEntry table text key rest stored := by
  rw [longest?_eq_some_iff]
  apply exists_congr
  intro key
  constructor
  · intro isLongest
    refine ⟨(get?_ofTable_eq_some_iff distinct notEmpty).mp isLongest.found, isLongest.split, ?_⟩
    intro entry member isPrefix
    apply isLongest.longest entry.1 isPrefix
    exact (isSome_get?_ofTable_iff distinct notEmpty).mpr ⟨entry, member, rfl⟩
  · intro isLongest
    refine ⟨isLongest.split, (get?_ofTable_eq_some_iff distinct notEmpty).mpr isLongest.member, ?_⟩
    intro other isPrefix isStored
    obtain ⟨entry, member, rfl⟩ := (isSome_get?_ofTable_iff distinct notEmpty).mp isStored
    exact isLongest.longest entry member isPrefix

/-- The search fails just if no key of the table stands at the start of the text. -/
theorem longest?_ofTable_eq_none_iff
    (distinct : (table.map Prod.fst).Nodup) (notEmpty : ∀ entry ∈ table, entry.1 ≠ []) :
    (ofTable table).longest? text = none ↔ ∀ entry ∈ table, ¬ entry.1 <+: text := by
  rw [longest?_eq_none_iff]
  constructor
  · intro noneAt entry member isPrefix
    have missing := noneAt entry.1 isPrefix
    have isStored : ((ofTable table).get? entry.1).isSome :=
      (isSome_get?_ofTable_iff distinct notEmpty).mpr ⟨entry, member, rfl⟩
    rw [missing] at isStored
    cases isStored
  · intro noEntry key isPrefix
    cases found : (ofTable table).get? key with
    | none => rfl
    | some stored =>
        have member := (get?_ofTable_eq_some_iff distinct notEmpty).mp found
        exact absurd isPrefix (noEntry _ member)

/-- It does not matter in which order a table has its entries. -/
theorem longest?_ofTable_perm
    {other : List (List Char × value)} (distinct : (table.map Prod.fst).Nodup)
    (notEmpty : ∀ entry ∈ table, entry.1 ≠ []) (rearranged : other.Perm table)
    (text : List Char) :
    (ofTable other).longest? text = (ofTable table).longest? text := by
  have distinctToo : (other.map Prod.fst).Nodup :=
    (rearranged.map Prod.fst).nodup_iff.mpr distinct
  have notEmptyToo : ∀ entry ∈ other, entry.1 ≠ [] := by
    intro entry member
    exact notEmpty entry (rearranged.mem_iff.mp member)
  cases found : (ofTable table).longest? text with
  | none =>
      rw [longest?_ofTable_eq_none_iff distinct notEmpty] at found
      apply (longest?_ofTable_eq_none_iff distinctToo notEmptyToo).mpr
      intro entry member
      exact found entry (rearranged.mem_iff.mp member)
  | some pair =>
      obtain ⟨key, isLongest⟩ := (longest?_ofTable_eq_some_iff distinct notEmpty).mp found
      apply (longest?_ofTable_eq_some_iff distinctToo notEmptyToo).mpr
      refine ⟨key, rearranged.mem_iff.mpr isLongest.member, isLongest.split, ?_⟩
      intro entry member
      exact isLongest.longest entry (rearranged.mem_iff.mp member)

end Table

/-! ## The search as a walk -/

section Walk

variable {value : Type}

/-- What is stored under a character of a trie, and the trie of what goes on after it. -/
def child? : Trie value → Char → Option (Option value × Trie value)
  | .empty, _ => none
  | .branch character here? below beside, first =>
      if first = character then some (here?, below) else beside.child? first

/-- Walks down a trie along a text as far as there are branches for its characters. What is stored
under the last key that was passed, and the text after that key, are kept for the end. -/
def walk : Trie value → Option (value × List Char) → List Char → Option (value × List Char)
  | _, passed?, [] => passed?
  | trie, passed?, first :: others =>
      match trie.child? first with
      | none => passed?
      | some (here?, below) =>
          below.walk ((here?.map fun stored => (stored, others)).or passed?) others

theorem longest?_nil
    (trie : Trie value) : trie.longest? [] = none := by
  cases trie <;> rfl

/-- A search goes on below the branch for the first character of the text. -/
theorem longest?_cons
    (trie : Trie value) (first : Char) (others : List Char) :
    trie.longest? (first :: others) =
      (trie.child? first).bind fun (here?, below) =>
        (below.longest? others).or (here?.map fun stored => (stored, others)) := by
  induction trie with
  | empty => rfl
  | branch character here? below beside _ besideHypothesis =>
      by_cases isCharacter : first = character
      · simp only [longest?, child?, if_pos isCharacter, Option.bind_some]
        cases below.longest? others <;> rfl
      · simp only [longest?, child?, if_neg isCharacter]
        exact besideHypothesis

/-- A walk finds what the search does, or else keeps what it was given. -/
theorem walk_eq
    (trie : Trie value) (passed? : Option (value × List Char)) (text : List Char) :
    trie.walk passed? text = (trie.longest? text).or passed? := by
  -- What was passed changes on the way down, and what comes later takes its place.
  induction text generalizing trie passed? with
  | nil =>
      rw [walk, longest?_nil, Option.none_or]
  | cons first others inductionHypothesis =>
      rw [walk, longest?_cons]
      cases trie.child? first with
      | none => rfl
      | some child => simp only [inductionHypothesis, Option.bind_some, Option.or_assoc]

end Walk

end Trie

/-! ## Marks -/

namespace Scan

variable {table : List (String × TokenKind)} {text characters rest : List Char} {kind : TokenKind}

/-- The entries of a table of marks, each with the characters of the mark as its key. -/
def tableEntries (table : List (String × TokenKind)) : List (List Char × List Char × TokenKind) :=
  table.map fun (spelling, kind) => (spelling.toList, (spelling.toList, kind))

/-- The trie of a table of marks. -/
def tableTrie (table : List (String × TokenKind)) : Trie (List Char × TokenKind) :=
  Trie.ofTable (tableEntries table)

theorem mem_tableEntries
    {key : List Char} {stored : List Char × TokenKind} :
    (key, stored) ∈ tableEntries table ↔
      ∃ mark ∈ table, mark.1.toList = key ∧ (mark.1.toList, mark.2) = stored := by
  simp only [tableEntries, List.mem_map, Prod.mk.injEq]

theorem nodup_tableEntries
    (distinct : (table.map Prod.fst).Nodup) : ((tableEntries table).map Prod.fst).Nodup := by
  have areKeys : (tableEntries table).map Prod.fst = (table.map Prod.fst).map String.toList := by
    simp [tableEntries]
  rw [areKeys]
  exact distinct.map fun _ _ same => String.toList_injective same

theorem tableEntries_notEmpty
    (notEmpty : ∀ mark ∈ table, mark.1 ≠ "") : ∀ entry ∈ tableEntries table, entry.1 ≠ [] := by
  rintro ⟨key, stored⟩ member
  obtain ⟨mark, isMark, rfl, -⟩ := mem_tableEntries.mp member
  intro isEmpty
  exact notEmpty mark isMark (String.toList_eq_nil_iff.mp isEmpty)

/-- The search finds the longest mark of the table, with its kind. -/
theorem longest?_tableTrie_eq_some
    (distinct : (table.map Prod.fst).Nodup) (notEmpty : ∀ mark ∈ table, mark.1 ≠ "") :
    (tableTrie table).longest? text = some ((characters, kind), rest) ↔
      ∃ spelling, (spelling, kind) ∈ table ∧ characters = spelling.toList ∧
        text = spelling.toList ++ rest ∧
        ∀ other ∈ table, other.1.toList <+: text → other.1.length ≤ spelling.length := by
  rw [tableTrie, Trie.longest?_ofTable_eq_some_iff (nodup_tableEntries distinct)
    (tableEntries_notEmpty notEmpty)]
  constructor
  · rintro ⟨key, isLongest⟩
    obtain ⟨⟨spelling, kind⟩, isMark, rfl, isStored⟩ := mem_tableEntries.mp isLongest.member
    obtain ⟨rfl, rfl⟩ := Prod.mk.inj isStored
    refine ⟨spelling, isMark, rfl, isLongest.split, ?_⟩
    intro other isOther isPrefix
    have bound := isLongest.longest _ (mem_tableEntries.mpr ⟨other, isOther, rfl, rfl⟩) isPrefix
    simpa only [String.length_toList] using bound
  · rintro ⟨spelling, isMark, rfl, split, longest⟩
    refine ⟨spelling.toList, mem_tableEntries.mpr ⟨_, isMark, rfl, rfl⟩, split, ?_⟩
    rintro ⟨key, stored⟩ member isPrefix
    obtain ⟨other, isOther, rfl, -⟩ := mem_tableEntries.mp member
    have bound := longest other isOther isPrefix
    simpa only [String.length_toList] using bound

theorem longest?_tableTrie_eq_none
    (distinct : (table.map Prod.fst).Nodup) (notEmpty : ∀ mark ∈ table, mark.1 ≠ "") :
    (tableTrie table).longest? text = none ↔ ∀ mark ∈ table, ¬ mark.1.toList <+: text := by
  rw [tableTrie, Trie.longest?_ofTable_eq_none_iff (nodup_tableEntries distinct)
    (tableEntries_notEmpty notEmpty)]
  constructor
  · intro noEntry mark isMark
    exact noEntry _ (mem_tableEntries.mpr ⟨mark, isMark, rfl, rfl⟩)
  · rintro noMark ⟨key, stored⟩ member
    obtain ⟨mark, isMark, rfl, -⟩ := mem_tableEntries.mp member
    exact noMark mark isMark

/-- What is read in place of a character behind the end of a text. -/
def endCharacter : Char := '\x00'

/-- Reads the mark at the start of a text by a walk down a trie of marks. -/
def readMark (marks : Trie (List Char × TokenKind)) (position : Position) (text : List Char) :
    Except LexFault Lexeme :=
  match marks.walk none text with
  | some ((spelling, kind), rest) => .ok ⟨kind, spelling, rest⟩
  | none => .error (.strayCharacter (text.headD endCharacter) position)

theorem readMark_eq
    (marks : Trie (List Char × TokenKind)) (position : Position) (text : List Char) :
    readMark marks position text =
      match marks.longest? text with
      | some ((spelling, kind), rest) => .ok ⟨kind, spelling, rest⟩
      | none => .error (.strayCharacter (text.headD endCharacter) position) := by
  rw [readMark, Trie.walk_eq, Option.or_none]

/-- Where no number and no word starts, the mark of the language is read that stands there. -/
theorem readLexeme_eq_readMark
    {first : Char} (noDigit : Alphabet.isDigit first = false)
    (noWord : Alphabet.startsWord first = false) (position : Position) (others : List Char) :
    readLexeme position first others =
      readMark (tableTrie TokenKind.marks) position (first :: others) := by
  rw [readMark_eq]
  simp only [readLexeme, noDigit, noWord, Bool.false_eq_true, if_false]
  rfl

variable {position : Position}

theorem readMark_eq_ok
    (distinct : (table.map Prod.fst).Nodup) (notEmpty : ∀ mark ∈ table, mark.1 ≠ "")
    {lexeme : Lexeme} :
    readMark (tableTrie table) position text = .ok lexeme ↔
      ∃ spelling, (spelling, lexeme.kind) ∈ table ∧ lexeme.characters = spelling.toList ∧
        text = spelling.toList ++ lexeme.rest ∧
        ∀ other ∈ table, other.1.toList <+: text → other.1.length ≤ spelling.length := by
  rw [← longest?_tableTrie_eq_some distinct notEmpty, readMark_eq]
  obtain ⟨kind, characters, rest⟩ := lexeme
  cases (tableTrie table).longest? text with
  | none => simp
  | some found =>
      obtain ⟨⟨spelling, kindFound⟩, restFound⟩ := found
      simp only [Except.ok.injEq, Lexeme.mk.injEq, Option.some.injEq, Prod.mk.injEq]
      tauto

theorem readMark_eq_error
    (distinct : (table.map Prod.fst).Nodup) (notEmpty : ∀ mark ∈ table, mark.1 ≠ "")
    {fault : LexFault} :
    readMark (tableTrie table) position text = .error fault ↔
      fault = .strayCharacter (text.headD endCharacter) position ∧
        ∀ mark ∈ table, ¬ mark.1.toList <+: text := by
  rw [← longest?_tableTrie_eq_none distinct notEmpty, readMark_eq]
  cases (tableTrie table).longest? text with
  | none => simp [eq_comm]
  | some found => simp

theorem readMark_perm
    {other : List (String × TokenKind)} (distinct : (table.map Prod.fst).Nodup)
    (notEmpty : ∀ mark ∈ table, mark.1 ≠ "") (rearranged : other.Perm table) :
    readMark (tableTrie other) position text = readMark (tableTrie table) position text := by
  have sameSearch : (tableTrie other).longest? text = (tableTrie table).longest? text :=
    Trie.longest?_ofTable_perm (nodup_tableEntries distinct) (tableEntries_notEmpty notEmpty)
      (rearranged.map _) text
  rw [readMark_eq, readMark_eq, sameSearch]

/-- By a table of non-empty marks that has none of them twice, the walk down its trie reads the
longest mark at the start of the text that is left at some place, with its kind. It fails just if no
mark stands there, and names the character that does. The order of the table does not matter. The
marks of the language are read in this way. -/
theorem longest_mark_read
    {table : List (String × TokenKind)} (distinct : (table.map Prod.fst).Nodup)
    (notEmpty : ∀ mark ∈ table, mark.1 ≠ "") :
    (∀ position text,
      (∀ lexeme, readMark (tableTrie table) position text = .ok lexeme ↔
        ∃ spelling, (spelling, lexeme.kind) ∈ table ∧ lexeme.characters = spelling.toList ∧
          text = spelling.toList ++ lexeme.rest ∧
          ∀ other ∈ table, other.1.toList <+: text → other.1.length ≤ spelling.length) ∧
      (∀ fault, readMark (tableTrie table) position text = .error fault ↔
        fault = .strayCharacter (text.headD endCharacter) position ∧
          ∀ mark ∈ table, ¬ mark.1.toList <+: text) ∧
      ∀ other : List (String × TokenKind), other.Perm table →
        readMark (tableTrie other) position text = readMark (tableTrie table) position text) ∧
    ∀ position first others,
      Alphabet.isDigit first = false → Alphabet.startsWord first = false →
        readLexeme position first others =
          readMark (tableTrie TokenKind.marks) position (first :: others) := by
  constructor
  · intro position text
    refine ⟨?_, ?_, ?_⟩
    · intro lexeme
      exact readMark_eq_ok distinct notEmpty
    · intro fault
      exact readMark_eq_error distinct notEmpty
    · intro other rearranged
      exact readMark_perm distinct notEmpty rearranged
  · intro position first others noDigit noWord
    exact readLexeme_eq_readMark noDigit noWord position others

/-- Two marks of which one starts with the other, without a mark between them. -/
def dashes : List (String × TokenKind) := [("-->", .arrow), ("-", .minus)]

/-- After one dash the walk goes on to a second one for the sake of the arrow, and falls back. -/
theorem longest_mark_read_dashes :
    (dashes.map Prod.fst).Nodup ∧ (∀ mark ∈ dashes, mark.1 ≠ "") ∧
      readMark (tableTrie dashes) .start ['-', '-', 'x'] = .ok ⟨.minus, ['-'], ['-', 'x']⟩ ∧
      readMark (tableTrie dashes) .start ['x'] = .error (.strayCharacter 'x' .start) := by
  have distinct : (dashes.map Prod.fst).Nodup := by decide
  have notEmpty : ∀ mark ∈ dashes, mark.1 ≠ "" := by decide
  have reads := (longest_mark_read distinct notEmpty).1
  refine ⟨distinct, notEmpty, ?_, ?_⟩
  · apply ((reads .start ['-', '-', 'x']).1 _).mpr
    exact ⟨"-", by decide, rfl, rfl, by decide⟩
  · apply ((reads .start ['x']).2.1 _).mpr
    exact ⟨rfl, by decide⟩

end Scan

end StructLang
