import StructLang.Proofs.Alphabet
import StructLang.Proofs.Token.Gaps
import StructLang.Proofs.Token.Tables

/-!
# Lexemes

A lexeme is a number, a word or a mark that is as long as it can be before the text after it.

* A number is a run of digits that runs into no letter and no underscore.
* A word is a letter or an underscore with all that continues a word.
* A mark is the longest one of the table at the start of a text in which no comment starts.

`readLexeme` finds the lexeme at the start of a text, and fails exactly if there is none.
-/

namespace StructLang.Scan

open Alphabet

/-! ## What a lexeme is -/

/-- A lexeme of a kind, its characters, and the text after it. -/
inductive IsLexeme : TokenKind → List Char → List Char → Prop
  | number {digits rest : List Char} :
      digits ≠ [] →
      (∀ digit ∈ digits, isDigit digit) →
      (∀ next ∈ rest.head?, ¬ isDigit next ∧ ¬ isLetter next ∧ next ≠ '_') →
      IsLexeme .integer digits rest
  | word {first : Char} {others rest : List Char} :
      isLetter first ∨ first = '_' →
      (∀ character ∈ others, continuesWord character) →
      (∀ next ∈ rest.head?, ¬ continuesWord next) →
      IsLexeme (.ofWord (String.ofList (first :: others))) (first :: others) rest
  | mark {spelling : String} {kind : TokenKind} {rest : List Char} :
      (spelling, kind) ∈ TokenKind.marks →
      ¬ StartsComment (spelling.toList ++ rest) →
      (∀ other ∈ TokenKind.marks, other.1.toList <+: spelling.toList ++ rest →
        other.1.length ≤ spelling.length) →
      IsLexeme kind spelling.toList rest

/-- What is wrong at the start of a text where neither a gap nor a lexeme goes on. -/
inductive Offends : List Char → Position → LexFault → Prop
  | openComment {body : List Char} {place : Position} :
      ¬ ClosesComment body →
      Offends ('/' :: '*' :: body) place (.openComment place)
  | gluedInteger {digits rest : List Char} {next : Char} {place : Position} :
      digits ≠ [] →
      (∀ digit ∈ digits, isDigit digit) →
      isLetter next ∨ next = '_' →
      Offends (digits ++ next :: rest) place
        (.gluedInteger (String.ofList (digits ++ [next])) place)
  | strayCharacter {first : Char} {others : List Char} {place : Position} :
      first ∉ [' ', '\t', '\n', '\r'] →
      ¬ isDigit first →
      ¬ isLetter first →
      first ≠ '_' →
      (∀ mark ∈ TokenKind.marks, ¬ mark.1.toList <+: first :: others) →
      Offends (first :: others) place (.strayCharacter first place)

theorem startsWord_iff
    {character : Char} :
    startsWord character = true ↔ isLetter character ∨ character = '_' := by
  simp [startsWord]

/-! ## Marks -/

theorem nodup_marks : (TokenKind.marks.map Prod.fst).Nodup := by
  decide

theorem marks_notEmpty : ∀ mark ∈ TokenKind.marks, mark.1 ≠ "" := by
  decide

theorem longest?_markTrie_eq_some
    {text characters rest : List Char} {kind : TokenKind} :
    markTrie.longest? text = some ((characters, kind), rest) ↔
      ∃ spelling, (spelling, kind) ∈ TokenKind.marks ∧ characters = spelling.toList ∧
        text = spelling.toList ++ rest ∧
        ∀ other ∈ TokenKind.marks, other.1.toList <+: text →
          other.1.length ≤ spelling.length :=
  longest?_tableTrie_eq_some nodup_marks marks_notEmpty

theorem longest?_markTrie_eq_none
    {text : List Char} :
    markTrie.longest? text = none ↔
      ∀ mark ∈ TokenKind.marks, ¬ mark.1.toList <+: text :=
  longest?_tableTrie_eq_none nodup_marks marks_notEmpty

/-- A mark starts with a character that is neither a blank nor part of a word. -/
theorem first_of_mark
    {spelling : String} {kind : TokenKind} (isMark : (spelling, kind) ∈ TokenKind.marks) :
    ∃ first others, spelling.toList = first :: others ∧
      first ∉ [' ', '\t', '\n', '\r'] ∧ isDigit first = false ∧ startsWord first = false := by
  have allStart : (TokenKind.marks.all fun mark => mark.1.toList.head?.any fun first =>
      !([' ', '\t', '\n', '\r'].contains first || isDigit first || startsWord first)) = true := by
    decide +kernel
  have starts := List.all_eq_true.mp allStart _ isMark
  obtain ⟨first, isFirst, isOther⟩ := Option.any_eq_true _ _ |>.mp starts
  have isCons := List.eq_cons_of_mem_head? isFirst
  simp only [Bool.not_eq_true', Bool.or_eq_false_iff] at isOther
  obtain ⟨⟨notBlank, noDigit⟩, noLetter⟩ := isOther
  refine ⟨first, _, isCons, ?_, noDigit, noLetter⟩
  intro isBlank
  rw [List.contains_iff_mem.mpr isBlank] at notBlank
  cases notBlank

/-! ## Reading finds the lexeme -/

theorem takeWhile_eq_of_stops
    {keep : Char → Bool} {kept rest : List Char} (allKept : ∀ character ∈ kept, keep character)
    (stops : ∀ next ∈ rest.head?, ¬ keep next) :
    (kept ++ rest).takeWhile keep = kept ∧ (kept ++ rest).dropWhile keep = rest := by
  have restTaken : rest.takeWhile keep = [] ∧ rest.dropWhile keep = rest := by
    cases rest with
    | nil => exact ⟨rfl, rfl⟩
    | cons next others =>
        have notKept : ¬ keep next := stops next rfl
        simp [notKept]
  rw [List.takeWhile_append_of_pos allKept, List.dropWhile_append_of_pos allKept, restTaken.1,
    restTaken.2, List.append_nil]
  exact ⟨rfl, rfl⟩

theorem head?_dropWhile_not
    {keep : Char → Bool} {text : List Char} :
    ∀ next ∈ (text.dropWhile keep).head?, ¬ keep next := by
  intro next isNext
  have fails := List.head?_dropWhile_not keep text
  rw [Option.mem_def.mp isNext] at fails
  simpa using fails

/-- No blank and no slash is part of a number or word. -/
theorem endsGap_of_first
    {first : Char} {others : List Char} (notBlank : first ∉ [' ', '\t', '\n', '\r'])
    (notSlash : first ≠ '/') : EndsGap (first :: others) := by
  refine ⟨?_, ?_⟩
  · intro next isNext
    obtain rfl : first = next := by simpa using isNext
    exact notBlank
  · rintro (isLine | isBlock)
    · exact notSlash (List.cons_prefix_cons.mp isLine).1.symm
    · exact notSlash (List.cons_prefix_cons.mp isBlock).1.symm

/-- No gap starts with a character of a class that holds neither blanks nor the slash. -/
theorem endsGap_of_class
    {inClass : Char → Bool}
    (noneInClass : [' ', '\t', '\n', '\r', '/'].any inClass = false)
    {first : Char} {others : List Char} (isInClass : inClass first = true) :
    EndsGap (first :: others) := by
  have notListed : first ∉ [' ', '\t', '\n', '\r', '/'] := by
    intro isListed
    have isSome := List.any_eq_true.mpr ⟨first, isListed, isInClass⟩
    rw [noneInClass] at isSome
    cases isSome
  apply endsGap_of_first
  · exact fun isBlank => notListed (List.mem_append_left ['/'] isBlank)
  · rintro rfl
    exact notListed (by simp)

theorem endsGap_of_isDigit
    {first : Char} {others : List Char} (digit : isDigit first = true) :
    EndsGap (first :: others) :=
  endsGap_of_class (by decide) digit

theorem endsGap_of_startsWord
    {first : Char} {others : List Char} (starts : startsWord first = true) :
    EndsGap (first :: others) :=
  endsGap_of_class (by decide) starts

/-- The lexeme at the start of a text is read, and no gap goes on there. -/
theorem readLexeme_of_isLexeme
    {kind : TokenKind} {characters rest : List Char} (isLexeme : IsLexeme kind characters rest)
    (position : Position) :
    ∃ first others, characters ++ rest = first :: others ∧ EndsGap (first :: others) ∧
      readLexeme position first others = .ok ⟨kind, characters, rest⟩ := by
  cases isLexeme with
  | number notEmpty areDigits stops =>
      cases characters with
      | nil => exact absurd rfl notEmpty
      | cons first digits =>
          have firstDigit : isDigit first = true := areDigits first List.mem_cons_self
          have othersDigits : ∀ digit ∈ digits, isDigit digit := fun digit member =>
            areDigits digit (List.mem_cons_of_mem _ member)
          have noneAfter : ∀ next ∈ rest.head?, ¬ isDigit next :=
            fun next isNext => (stops next isNext).1
          obtain ⟨taken, dropped⟩ := takeWhile_eq_of_stops othersDigits noneAfter
          refine ⟨first, digits ++ rest, rfl, endsGap_of_isDigit firstDigit, ?_⟩
          rw [readLexeme, if_pos firstDigit]
          simp only [taken, dropped]
          cases rest with
          | nil => rfl
          | cons next others =>
              obtain ⟨-, noLetter, noUnderscore⟩ := stops next rfl
              have notStarts : ¬ startsWord next = true := by
                rw [startsWord_iff, not_or]
                exact ⟨noLetter, noUnderscore⟩
              simp [notStarts]
  | @word first others _ starts continue' stops =>
      have startsTrue : startsWord first = true := startsWord_iff.mpr starts
      have notDigit : ¬ isDigit first = true := by
        intro digit
        rw [startsWord_eq_false_of_isDigit digit] at startsTrue
        cases startsTrue
      obtain ⟨taken, dropped⟩ := takeWhile_eq_of_stops continue' stops
      refine ⟨first, others ++ rest, rfl, endsGap_of_startsWord startsTrue, ?_⟩
      rw [readLexeme, if_neg notDigit, if_pos startsTrue]
      simp only [taken, dropped]
  | @mark spelling _ _ isMark noComment longest =>
      obtain ⟨first, others, isCons, notBlank, noDigit, noStart⟩ := first_of_mark isMark
      have found := longest?_markTrie_eq_some.mpr ⟨spelling, isMark, rfl, rfl, longest⟩
      refine ⟨first, others ++ rest, by rw [isCons]; rfl, ⟨?_, ?_⟩, ?_⟩
      · intro next isNext
        obtain rfl : first = next := by simpa using isNext
        exact notBlank
      · rw [isCons] at noComment
        exact noComment
      · rw [isCons] at found ⊢
        simp only [readLexeme, noDigit, noStart, Bool.false_eq_true, if_false]
        rw [List.cons_append] at found
        rw [found]

/-- What is read is the lexeme at the start of a text, if no gap goes on there. -/
theorem isLexeme_of_readLexeme
    {position : Position} {first : Char} {others : List Char} {lexeme : Lexeme}
    (found : readLexeme position first others = .ok lexeme) (ends : EndsGap (first :: others)) :
    first :: others = lexeme.characters ++ lexeme.rest ∧
      IsLexeme lexeme.kind lexeme.characters lexeme.rest := by
  by_cases digit : isDigit first = true
  · have areDigits : ∀ other ∈ first :: others.takeWhile isDigit, isDigit other := by
      intro other member
      rcases List.mem_cons.mp member with rfl | inOthers
      · exact digit
      · exact List.all_eq_true.mp List.all_takeWhile other inOthers
    have split : first :: others =
        (first :: others.takeWhile isDigit) ++ others.dropWhile isDigit := by
      rw [List.cons_append, List.takeWhile_append_dropWhile]
    have stops : ∀ next ∈ (others.dropWhile isDigit).head?, ¬ isDigit next :=
      head?_dropWhile_not
    simp only [readLexeme, digit, if_true] at found
    cases isRest : others.dropWhile isDigit with
    | nil =>
        simp only [isRest] at found
        cases found
        refine ⟨by rw [split, isRest], IsLexeme.number (List.cons_ne_nil _ _) areDigits ?_⟩
        simp
    | cons next following =>
        simp only [isRest] at found
        by_cases starts : startsWord next = true
        · simp [starts] at found
        · simp only [starts, Bool.false_eq_true, if_false] at found
          cases found
          refine ⟨by rw [split, isRest], IsLexeme.number (List.cons_ne_nil _ _) areDigits ?_⟩
          intro other isOther
          obtain rfl : next = other := by simpa using isOther
          rw [startsWord_iff, not_or] at starts
          exact ⟨stops next (by rw [isRest]; rfl), starts.1, starts.2⟩
  · by_cases starts : startsWord first = true
    · simp only [readLexeme, digit, starts, Bool.false_eq_true, if_false, if_true] at found
      cases found
      refine ⟨by rw [List.cons_append, List.takeWhile_append_dropWhile], ?_⟩
      apply IsLexeme.word (startsWord_iff.mp starts)
      · exact fun other member => List.all_eq_true.mp List.all_takeWhile other member
      · exact head?_dropWhile_not
    · simp only [readLexeme, digit, starts, Bool.false_eq_true, if_false] at found
      cases isFound : markTrie.longest? (first :: others) with
      | none => simp [isFound] at found
      | some pair =>
          obtain ⟨⟨characters, kind⟩, rest⟩ := pair
          simp only [isFound] at found
          cases found
          obtain ⟨spelling, isMark, rfl, split, longest⟩ :=
            longest?_markTrie_eq_some.mp isFound
          refine ⟨split, IsLexeme.mark isMark ?_ ?_⟩
          · rw [← split]
            exact ends.2
          · rw [← split]
            exact longest

/-! ## Reading fails where there is none -/

/-- Where reading fails and no gap goes on, a number or a single character offends. -/
theorem offends_of_readLexeme
    {position : Position} {first : Char} {others : List Char} {fault : LexFault}
    (failed : readLexeme position first others = .error fault)
    (ends : EndsGap (first :: others)) :
    Offends (first :: others) position fault := by
  by_cases digit : isDigit first = true
  · simp only [readLexeme, digit, if_true] at failed
    cases isRest : others.dropWhile isDigit with
    | nil => simp [isRest] at failed
    | cons next following =>
        simp only [isRest] at failed
        by_cases starts : startsWord next = true
        · simp only [starts, if_true] at failed
          cases failed
          have split : first :: others =
              (first :: others.takeWhile isDigit) ++ next :: following := by
            rw [← isRest, List.cons_append, List.takeWhile_append_dropWhile]
          rw [split]
          apply Offends.gluedInteger (List.cons_ne_nil _ _)
          · intro other member
            rcases List.mem_cons.mp member with rfl | inOthers
            · exact digit
            · exact List.all_eq_true.mp List.all_takeWhile other inOthers
          · exact startsWord_iff.mp starts
        · simp [starts] at failed
  · by_cases starts : startsWord first = true
    · simp [readLexeme, digit, starts] at failed
    · simp only [readLexeme, digit, starts, Bool.false_eq_true, if_false] at failed
      cases isFound : markTrie.longest? (first :: others) with
      | some pair => simp [isFound] at failed
      | none =>
          simp only [isFound] at failed
          cases failed
          rw [startsWord_iff, not_or] at starts
          exact Offends.strayCharacter (ends.1 first rfl) digit starts.1 starts.2
            (longest?_markTrie_eq_none.mp isFound)

/-- An offending number or character is no gap and makes the reading fail. -/
theorem readLexeme_of_offends
    {text : List Char} {place : Position} {fault : LexFault}
    (offends : Offends text place fault) :
    (∃ body, text = '/' :: '*' :: body ∧ ¬ ClosesComment body ∧ fault = .openComment place) ∨
      ∃ first others, text = first :: others ∧ EndsGap text ∧
        readLexeme place first others = .error fault := by
  cases offends with
  | openComment notClosed => exact Or.inl ⟨_, rfl, notClosed, rfl⟩
  | @gluedInteger digits rest next _ notEmpty areDigits starts =>
      cases digits with
      | nil => exact absurd rfl notEmpty
      | cons first digits =>
          have firstDigit : isDigit first = true := areDigits first List.mem_cons_self
          have startsTrue : startsWord next = true := startsWord_iff.mpr starts
          have othersDigits : ∀ digit ∈ digits, isDigit digit := fun digit member =>
            areDigits digit (List.mem_cons_of_mem _ member)
          have stops : ∀ other ∈ (next :: rest).head?, ¬ isDigit other := by
            intro other isOther digit
            obtain rfl : next = other := by simpa using isOther
            rw [startsWord_eq_false_of_isDigit digit] at startsTrue
            cases startsTrue
          obtain ⟨taken, dropped⟩ := takeWhile_eq_of_stops othersDigits stops
          refine Or.inr ⟨first, digits ++ next :: rest, rfl, endsGap_of_isDigit firstDigit, ?_⟩
          rw [readLexeme, if_pos firstDigit]
          simp only [taken, dropped, startsTrue, if_true]
  | @strayCharacter first others _ notBlank noDigit noLetter noUnderscore noMark =>
      have notStarts : ¬ startsWord first = true := by
        rw [startsWord_iff, not_or]
        exact ⟨noLetter, noUnderscore⟩
      have notSlash : first ≠ '/' := by
        rintro rfl
        exact noMark ("/", .slash) (by decide) ⟨others, rfl⟩
      have missing := longest?_markTrie_eq_none.mpr noMark
      refine Or.inr ⟨first, others, rfl, endsGap_of_first notBlank notSlash, ?_⟩
      simp [readLexeme, noDigit, notStarts, missing]

/-! ## Words -/

variable {kind : TokenKind} {characters rest : List Char}

/-- An identifier or a reserved word has the kind of its text, and is as long as it can be. -/
theorem IsLexeme.of_wordKind
    (isLexeme : IsLexeme kind characters rest)
    (isWord : kind ∈ .identifier :: TokenKind.words.map Prod.snd) :
    kind = .ofWord (String.ofList characters) ∧
      (∀ character ∈ characters, continuesWord character) ∧
      ∀ next ∈ rest.head?, ¬ continuesWord next := by
  cases isLexeme with
  | number => exact absurd isWord (by decide)
  | word starts continues stops =>
      have startContinues := continuesWord_of_startsWord (startsWord_iff.mpr starts)
      exact ⟨rfl, List.forall_mem_cons.mpr ⟨startContinues, continues⟩, stops⟩
  | mark isMark =>
      have noWord : ∀ mark ∈ TokenKind.marks,
          mark.2 ∉ .identifier :: TokenKind.words.map Prod.snd := by decide
      exact absurd isWord (noWord _ isMark)

/-- A reserved word has the text that is reserved for its kind. -/
theorem IsLexeme.eq_word
    {word : String} (isLexeme : IsLexeme kind characters rest)
    (isWord : (word, kind) ∈ TokenKind.words) : String.ofList characters = word := by
  have isWordKind : kind ∈ TokenKind.words.map Prod.snd := List.mem_map_of_mem isWord
  obtain ⟨isKind, -⟩ := isLexeme.of_wordKind (List.mem_cons_of_mem _ isWordKind)
  rw [TokenKind.ofWord] at isKind
  cases isFound : TokenKind.words.lookup (String.ofList characters) with
  | none =>
      have notReserved : .identifier ∉ TokenKind.words.map Prod.snd := by decide
      rw [isFound] at isKind
      obtain rfl : kind = .identifier := isKind
      exact absurd isWordKind notReserved
  | some other =>
      rw [isFound] at isKind
      obtain rfl : kind = other := isKind
      obtain ⟨front, back, isTable, -⟩ := List.lookup_eq_some_iff.mp isFound
      have isThere : (String.ofList characters, kind) ∈ TokenKind.words :=
        isTable ▸ List.mem_append_right _ List.mem_cons_self
      have oneWord : ∀ entry ∈ TokenKind.words, ∀ other ∈ TokenKind.words,
          entry.2 = other.2 → entry.1 = other.1 := by decide
      exact oneWord _ isThere _ isWord rfl

end StructLang.Scan
