import StructLang.Proofs.Token.Splits

/-!
# Texts put together from lexemes

A text that is put together from words, marks and spaces splits into the tokens of these, if no word
runs into the next one and no mark is part of a longer one. How a text goes on behind such a part
does not matter then, so the parts can be read one by one.

- `Splits.cons_word`, `Splits.cons_mark`, `Splits.cons_space` : one more part in front of a text.
- `ReadsAs` : a part splits into tokens of which something holds, wherever it stands.
-/

namespace StructLang.Scan

/-! ## Parts in front of a text -/

/-- Characters that are a word of the language. -/
def IsWord (characters : List Char) : Prop :=
  ∃ first others, characters = first :: others ∧ (Alphabet.isLetter first ∨ first = '_') ∧
    ∀ character ∈ others, Alphabet.continuesWord character

/-- A text does not go on with a word. -/
def StopsWord (text : List Char) : Prop :=
  ∀ next ∈ text.head?, ¬ Alphabet.continuesWord next

/-- A mark that is no part of another one, and no comment starts with it. -/
def StandsAlone (spelling : String) : Prop :=
  spelling.toList.head? ≠ some '/' ∧ spelling ≠ "" ∧
    ∀ mark ∈ TokenKind.marks, spelling.toList <+: mark.1.toList → mark.1.length ≤ spelling.length

instance (spelling : String) : Decidable (StandsAlone spelling) :=
  inferInstanceAs (Decidable (_ ∧ _))

variable {before rest : List Char} {tokens : List Token}

theorem Splits.cons_word
    {word : String} (isWord : IsWord word.toList) (stops : StopsWord rest)
    (splits : Splits (before ++ word.toList) rest tokens) :
    Splits before (word.toList ++ rest) (⟨.ofWord word, word, .behind before⟩ :: tokens) := by
  obtain ⟨first, others, isCons, starts, continues⟩ := isWord
  have isLexeme := IsLexeme.word starts continues stops
  rw [← isCons, String.ofList_toList] at isLexeme
  have splitsHere : Splits (before ++ [] ++ word.toList) rest tokens := by
    rwa [List.append_nil]
  have joined := Splits.lexeme .none isLexeme splitsHere
  rwa [String.ofList_toList, List.append_nil] at joined

theorem isLexeme_of_standsAlone
    {spelling : String} {kind : TokenKind} (isMark : (spelling, kind) ∈ TokenKind.marks)
    (alone : StandsAlone spelling) (rest : List Char) : IsLexeme kind spelling.toList rest := by
  obtain ⟨noSlash, notEmpty, isLongest⟩ := alone
  refine .mark isMark ?_ fun other isOther isPrefix => ?_
  · cases isText : spelling.toList with
    | nil => exact absurd (String.toList_eq_nil_iff.mp isText) notEmpty
    | cons first others =>
        rw [isText, List.head?_cons, ne_eq, Option.some.injEq] at noSlash
        rintro (⟨after, same⟩ | ⟨after, same⟩) <;>
          exact noSlash (List.cons.inj same).1.symm
  · by_contra isLonger
    have isShorter : spelling.toList.length ≤ other.1.toList.length := by
      simp only [String.length_toList]
      omega
    exact isLonger (isLongest other isOther
      (List.prefix_of_prefix_length_le (List.prefix_append _ _) isPrefix isShorter))

theorem Splits.cons_mark
    {spelling : String} {kind : TokenKind} (isMark : (spelling, kind) ∈ TokenKind.marks)
    (alone : StandsAlone spelling) (splits : Splits (before ++ spelling.toList) rest tokens) :
    Splits before (spelling.toList ++ rest) (⟨kind, spelling, .behind before⟩ :: tokens) := by
  have splitsHere : Splits (before ++ [] ++ spelling.toList) rest tokens := by
    rwa [List.append_nil]
  have joined := Splits.lexeme .none (isLexeme_of_standsAlone isMark alone rest) splitsHere
  rwa [String.ofList_toList, List.append_nil] at joined

theorem Splits.cons_space
    (splits : Splits (before ++ [' ']) rest tokens) : Splits before (' ' :: rest) tokens := by
  have isPiece (after : List Char) : GapPiece [' '] after := .blank List.mem_cons_self
  cases splits with
  | @finish _ gap isGap =>
      rw [List.append_assoc]
      exact .finish (.more (isPiece _) isGap)
  | @lexeme _ gap characters others kind tokens isGap isLexeme splits =>
      have splitsHere : Splits (before ++ ([' '] ++ gap) ++ characters) others tokens := by
        simpa using splits
      rw [List.append_assoc]
      exact .lexeme (.more (isPiece _) isGap) isLexeme splitsHere

/-! ## Parts wherever they stand -/

/-- Behind any characters and before any text that does not go on with a word, a text splits into
tokens of which something holds, whatever comes behind them. -/
def ReadsAs (text : List Char) (means : List Token → List Token → Prop) : Prop :=
  ∀ (before rest : List Char) (restTokens : List Token), StopsWord rest →
    Splits (before ++ text) rest restTokens →
      ∃ tokens, Splits before (text ++ rest) (tokens ++ restTokens) ∧
        ∀ more, means (tokens ++ more) more

/-- The tokens up to a rest are a single one of a kind. -/
def IsToken (kind : TokenKind) (tokens rest : List Token) : Prop :=
  ∃ token, tokens = token :: rest ∧ token.kind = kind

namespace ReadsAs

variable {text later : List Char} {means meansToo meansNext : List Token → List Token → Prop}

theorem imp
    (reads : ReadsAs text means)
    (weaker : ∀ tokens rest, means tokens rest → meansToo tokens rest) :
    ReadsAs text meansToo := by
  intro before rest restTokens stops splits
  obtain ⟨tokens, splitsHere, isMeant⟩ := reads before rest restTokens stops splits
  exact ⟨tokens, splitsHere, fun more => weaker _ _ (isMeant more)⟩

theorem word
    {word : String} (isWord : IsWord word.toList) :
    ReadsAs word.toList fun tokens rest =>
      ∃ token, tokens = token :: rest ∧ token.kind = .ofWord word ∧ token.text = word :=
  fun _ _ _ stops splits => ⟨[_], splits.cons_word isWord stops, fun _ => ⟨_, rfl, rfl, rfl⟩⟩

/-- What follows a text must not go on with a word, for the text may end with one. -/
theorem append
    (reads : ReadsAs text means) (readsLater : ReadsAs later meansNext)
    (stops : ∀ rest, StopsWord (later ++ rest)) :
    ReadsAs (text ++ later) fun tokens rest =>
      ∃ middle, means tokens middle ∧ meansNext middle rest := by
  intro before rest restTokens stopsRest splits
  rw [← List.append_assoc] at splits
  obtain ⟨laterTokens, splitsLater, isMeantLater⟩ := readsLater _ _ _ stopsRest splits
  obtain ⟨tokens, splitsHere, isMeant⟩ := reads _ _ _ (stops rest) splitsLater
  rw [← List.append_assoc, ← List.append_assoc] at splitsHere
  refine ⟨tokens ++ laterTokens, splitsHere, fun more => ⟨laterTokens ++ more, ?_, ?_⟩⟩
  · rw [List.append_assoc]
    exact isMeant _
  · exact isMeantLater more

theorem space
    (reads : ReadsAs text means) : ReadsAs (' ' :: text) means := by
  intro before rest restTokens stops splits
  rw [List.append_cons] at splits
  obtain ⟨tokens, splitsHere, isMeant⟩ := reads _ _ _ stops splits
  exact ⟨tokens, splitsHere.cons_space, isMeant⟩

variable {spelling : String} {kind : TokenKind}

theorem mark
    (isMark : (spelling, kind) ∈ TokenKind.marks) (alone : StandsAlone spelling)
    (reads : ReadsAs text means) :
    ReadsAs (spelling.toList ++ text) fun tokens rest =>
      ∃ middle, IsToken kind tokens middle ∧ means middle rest := by
  intro before rest restTokens stops splits
  rw [← List.append_assoc] at splits
  obtain ⟨tokens, splitsHere, isMeant⟩ := reads _ _ _ stops splits
  rw [List.append_assoc]
  exact ⟨_ :: tokens, splitsHere.cons_mark isMark alone,
    fun more => ⟨tokens ++ more, ⟨_, rfl, rfl⟩, isMeant more⟩⟩

theorem lastMark
    (isMark : (spelling, kind) ∈ TokenKind.marks) (alone : StandsAlone spelling) :
    ReadsAs spelling.toList (IsToken kind) :=
  fun _ _ _ _ splits => ⟨[_], splits.cons_mark isMark alone, fun _ => ⟨_, rfl, rfl⟩⟩

end ReadsAs

theorem stopsWord_append
    {text : List Char} (stops : ∃ first others, text = first :: others ∧
      Alphabet.continuesWord first = false) (rest : List Char) :
    StopsWord (text ++ rest) := by
  obtain ⟨first, others, rfl, isNone⟩ := stops
  simpa [StopsWord] using isNone

end StructLang.Scan
