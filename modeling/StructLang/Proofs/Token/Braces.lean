import StructLang.Proofs.Document.Braces
import StructLang.Proofs.Token.LineEnds

/-!
# The braces of a text

Every brace among the tokens of a text stands in the text, and the only others stand in comments. A
text splits clearly into tokens if there are no others. Then what can be said about the braces of
some tokens can be said about those of the characters in which the tokens stand.
-/

namespace StructLang

namespace Text

variable {text : List Char}

/-- The braces of a text. -/
def braces (text : List Char) : List Char :=
  text.filter fun character => character = '\x7b' ∨ character = '\x7d'

@[simp] theorem braces_append
    (first second : List Char) : braces (first ++ second) = braces first ++ braces second :=
  List.filter_append _ _

theorem openings_braces (text : List Char) : openings (braces text) = openings text :=
  List.count_filter (by decide)

theorem closings_braces (text : List Char) : closings (braces text) = closings text :=
  List.count_filter (by decide)

theorem BraceFree.of_braces
    (noBraces : braces text = []) : BraceFree text := by
  rw [BraceFree, ← openings_braces, ← closings_braces, noBraces]
  exact ⟨rfl, rfl⟩

theorem Balanced.of_braces
    (isBalanced : Balanced (braces text)) : Balanced text := by
  refine ⟨?_, ?_⟩
  · rintro front back rfl
    have inside := isBalanced.covered _ _ (braces_append front back)
    rwa [openings_braces, closings_braces] at inside
  · rw [← openings_braces, ← closings_braces]
    exact isBalanced.ends

end Text

/-- The brace that a kind of token is. -/
def TokenKind.brace? : TokenKind → Option Char
  | leftBrace => some '\x7b'
  | rightBrace => some '\x7d'
  | _ => none

/-- The braces among some tokens. -/
def Token.braces (tokens : List Token) : List Char :=
  tokens.filterMap (·.kind.brace?)

namespace Token

theorem braces_cons
    (first : Token) (others : List Token) :
    braces (first :: others) = first.kind.brace?.toList ++ braces others := by
  rw [braces, List.filterMap_cons]
  cases first.kind.brace? <;> rfl

@[simp] theorem braces_append
    (first second : List Token) : braces (first ++ second) = braces first ++ braces second :=
  List.filterMap_append

end Token

namespace Scan

open Text

variable {before text : List Char} {tokens rest : List Token}

/-! ## Braces of lexemes -/

theorem brace?_ofWord (word : String) : (TokenKind.ofWord word).brace? = none := by
  rw [TokenKind.ofWord]
  cases isWord : TokenKind.words.lookup word with
  | none => rfl
  | some kind =>
      have noBraces : ∀ entry ∈ TokenKind.words, entry.2.brace? = none := by decide
      obtain ⟨front, back, isTable, -⟩ := List.lookup_eq_some_iff.mp isWord
      exact noBraces (word, kind) (isTable ▸ List.mem_append_right _ List.mem_cons_self)

theorem braces_eq_nil
    {characters : List Char} {allowed : Char → Bool} (areAllowed : ∀ character ∈ characters,
      allowed character = true) (noOpening : allowed '\x7b' = false)
    (noClosing : allowed '\x7d' = false) : braces characters = [] := by
  refine List.filter_eq_nil_iff.mpr fun character isThere isBrace => ?_
  have isAllowed := areAllowed character isThere
  rcases of_decide_eq_true isBrace with rfl | rfl
  · rw [noOpening] at isAllowed
    cases isAllowed
  · rw [noClosing] at isAllowed
    cases isAllowed

theorem IsLexeme.braces
    {kind : TokenKind} {characters rest : List Char} (isLexeme : IsLexeme kind characters rest) :
    braces characters = kind.brace?.toList := by
  cases isLexeme with
  | number _ digits => exact braces_eq_nil digits (by decide) (by decide)
  | word starts continues =>
      rw [brace?_ofWord]
      refine braces_eq_nil (List.forall_mem_cons.mpr ⟨?_, continues⟩) (by decide) (by decide)
      exact Alphabet.continuesWord_of_startsWord (startsWord_iff.mpr starts)
  | mark isMark =>
      have ofMarks : ∀ mark ∈ TokenKind.marks,
          Text.braces mark.1.toList = mark.2.brace?.toList := by decide +kernel
      exact ofMarks _ isMark

/-- A lexeme that is a brace is that character alone. -/
theorem IsLexeme.eq_brace
    {kind : TokenKind} {characters rest : List Char} {brace : Char}
    (isLexeme : IsLexeme kind characters rest) (isBrace : kind.brace? = some brace) :
    characters = [brace] := by
  cases isLexeme with
  | number => cases isBrace
  | word =>
      rw [brace?_ofWord] at isBrace
      cases isBrace
  | mark isMark =>
      have ofMarks : ∀ mark ∈ TokenKind.marks, mark.2.brace?.toList ≠ [] →
          mark.1.toList = mark.2.brace?.toList := by decide +kernel
      have isSame := ofMarks _ isMark
      rw [isBrace] at isSame
      exact isSame (List.cons_ne_nil _ _)

/-! ## Clear splits -/

theorem Splits.braces_sublist
    (splits : Splits before text tokens) : (Token.braces tokens).Sublist (braces text) := by
  induction splits with
  | finish => exact List.nil_sublist _
  | lexeme _ isLexeme _ inductionHypothesis =>
      rw [Token.braces_cons, braces_append, braces_append, isLexeme.braces]
      exact ((List.Sublist.refl _).append inductionHypothesis).trans
        (List.sublist_append_right _ _)

/-- Behind some characters, a text splits into some tokens and one that marks its end, and all
braces of the text are among the tokens. -/
structure ClearSplits (before text : List Char) (tokens : List Token) : Prop where
  splits : ∃ finish, Splits before text (tokens ++ [finish])
  braces : Text.braces text = Token.braces tokens

/-- A text that splits into a first token and others starts with a gap and the token. -/
theorem Splits.exists_lexeme
    {first finish : Token} (splits : Splits before text (first :: (tokens ++ [finish]))) :
    ∃ gap characters left, text = gap ++ (characters ++ left) ∧
      Gap gap (characters ++ left) ∧ IsLexeme first.kind characters left ∧
      first = ⟨first.kind, String.ofList characters, .behind (before ++ gap)⟩ ∧
      Splits (before ++ gap ++ characters) left (tokens ++ [finish]) := by
  generalize shape : tokens ++ [finish] = others at splits
  cases splits with
  | finish => simp at shape
  | lexeme isGap isLexeme splits =>
      exact ⟨_, _, _, rfl, isGap, isLexeme, rfl, shape ▸ splits⟩

/-- Where all braces of a text are tokens, none stand in a gap. -/
theorem ClearSplits.exists_lexeme
    {first : Token} (clear : ClearSplits before text (first :: tokens)) :
    ∃ gap characters left, text = gap ++ (characters ++ left) ∧
      Gap gap (characters ++ left) ∧ IsLexeme first.kind characters left ∧
      first = ⟨first.kind, String.ofList characters, .behind (before ++ gap)⟩ ∧
      Text.braces gap = [] ∧ ClearSplits (before ++ gap ++ characters) left tokens := by
  obtain ⟨⟨finish, splits⟩, sameBraces⟩ := clear
  obtain ⟨gap, characters, left, rfl, isGap, isLexeme, isFirst, splits⟩ := splits.exists_lexeme
  have isPart : (Token.braces tokens).Sublist (Text.braces left) := by
    refine List.Sublist.trans ?_ splits.braces_sublist
    rw [Token.braces_append]
    exact List.sublist_append_left _ _
  rw [braces_append, braces_append, isLexeme.braces, Token.braces_cons] at sameBraces
  have sameLength := congrArg List.length sameBraces
  simp only [List.length_append] at sameLength
  have notLonger := isPart.length_le
  have noBraces : Text.braces gap = [] := List.length_eq_zero_iff.mp (by omega)
  have isSame : Token.braces tokens = Text.braces left := isPart.eq_of_length (by omega)
  exact ⟨gap, characters, left, rfl, isGap, isLexeme, isFirst, noBraces, ⟨finish, splits⟩,
    isSame.symm⟩

/-- A first token of a text that splits clearly, with the gap in front of it. -/
theorem ClearSplits.cons
    {first : Token} (clear : ClearSplits before text (first :: tokens)) :
    ∃ gap left, text = gap ++ (first.text.toList ++ left) ∧ BraceFree gap ∧
      first.position = .behind (before ++ gap) ∧
      IsLexeme first.kind first.text.toList left ∧
      ClearSplits (before ++ gap ++ first.text.toList) left tokens := by
  obtain ⟨gap, characters, left, rfl, -, isLexeme, isFirst, noBraces, clear⟩ := clear.exists_lexeme
  have isText : first.text.toList = characters := by rw [isFirst, String.toList_ofList]
  subst isText
  exact ⟨gap, left, rfl, .of_braces noBraces, congrArg Token.position isFirst, isLexeme, clear⟩

/-- The gap in front of a text that splits clearly, up to its first token. -/
theorem ClearSplits.skip_gap
    {first : Token} (clear : ClearSplits before text (first :: tokens)) :
    ∃ gap left, text = gap ++ left ∧ BraceFree gap ∧ first.position = .behind (before ++ gap) ∧
      ClearSplits (before ++ gap) left (first :: tokens) := by
  obtain ⟨gap, characters, left, rfl, -, isLexeme, isFirst, noBraces, clear⟩ := clear.exists_lexeme
  obtain ⟨⟨finish, splits⟩, sameBraces⟩ := clear
  refine ⟨gap, _, rfl, .of_braces noBraces, congrArg Token.position isFirst, ⟨finish, ?_⟩, ?_⟩
  · have splitsHere : Splits (before ++ gap ++ [] ++ characters) left (tokens ++ [finish]) := by
      rwa [List.append_nil]
    have joined := Splits.lexeme .none isLexeme splitsHere
    rw [List.append_nil, ← isFirst] at joined
    exact joined
  · rw [braces_append, isLexeme.braces, Token.braces_cons, sameBraces]

/-- Behind some characters, a piece of a text holds a name on one line, at a position. -/
structure HoldsName (before piece : List Char) (name : String) (position : Position) : Prop where
  oneLine : '\n' ∉ name.toList
  isThere : ∃ front back, piece = front ++ (name.toList ++ back) ∧
    position = .behind (before ++ front)

theorem HoldsName.append
    {piece : List Char} {name : String} {position : Position}
    (holds : HoldsName before piece name position) (more : List Char) :
    HoldsName before (piece ++ more) name position := by
  obtain ⟨oneLine, front, back, rfl, isPlace⟩ := holds
  exact ⟨oneLine, front, back ++ more, by simp, isPlace⟩

theorem HoldsName.prepend
    {earlier piece : List Char} {name : String} {position : Position}
    (holds : HoldsName (before ++ earlier) piece name position) :
    HoldsName before (earlier ++ piece) name position := by
  obtain ⟨oneLine, front, back, rfl, rfl⟩ := holds
  exact ⟨oneLine, earlier ++ front, back, by simp, by rw [List.append_assoc]⟩

theorem HoldsName.length_le
    {piece : List Char} {name : String} {position : Position}
    (holds : HoldsName before piece name position) : name.length ≤ piece.length := by
  obtain ⟨-, front, back, rfl, -⟩ := holds
  simp only [List.length_append, String.length_toList]
  omega

/-- The characters in which some tokens stand have the braces of the tokens, and their names. -/
theorem ClearSplits.pass
    {piece : List Token} (clear : ClearSplits before text (piece ++ rest)) :
    ∃ passed left, text = passed ++ left ∧ Text.braces passed = Token.braces piece ∧
      (∀ token ∈ piece, HoldsName before passed token.text token.position) ∧
      ClearSplits (before ++ passed) left rest := by
  induction piece generalizing before text with
  | nil => exact ⟨[], text, rfl, rfl, List.forall_mem_nil _, by rwa [List.append_nil]⟩
  | cons first others inductionHypothesis =>
      obtain ⟨gap, characters, left, rfl, -, isLexeme, isFirst, noBraces, clear⟩ :=
        clear.exists_lexeme
      obtain ⟨passed, left, rfl, sameBraces, haveNames, clear⟩ := inductionHypothesis clear
      refine ⟨gap ++ characters ++ passed, left, by simp, ?_, ?_, by simpa using clear⟩
      · rw [braces_append, braces_append, noBraces, isLexeme.braces, sameBraces,
          Token.braces_cons]
        rfl
      · refine List.forall_mem_cons.mpr ⟨?_, fun token isThere => ?_⟩
        · rw [isFirst]
          refine ⟨?_, gap, passed, ?_, rfl⟩
          · rw [String.toList_ofList]
            exact isLexeme.oneLine.2
          · rw [String.toList_ofList, List.append_assoc]
        · refine HoldsName.prepend ?_
          rw [← List.append_assoc]
          exact haveNames token isThere

/-- A brace that comes first, with the gap in front of it. -/
theorem ClearSplits.cons_brace
    {first : Token} {kind : TokenKind} {brace : Char} (isKind : first.kind = kind)
    (isBrace : kind.brace? = some brace) (clear : ClearSplits before text (first :: tokens)) :
    ∃ gap left, text = gap ++ brace :: left ∧ BraceFree gap ∧
      first.position = .behind (before ++ gap) ∧
      ClearSplits (before ++ gap ++ [brace]) left tokens := by
  obtain ⟨gap, characters, left, rfl, -, isLexeme, isFirst, noBraces, clear⟩ :=
    clear.exists_lexeme
  obtain rfl : characters = [brace] := isLexeme.eq_brace (isKind ▸ isBrace)
  exact ⟨gap, left, rfl, .of_braces noBraces, congrArg Token.position isFirst, clear⟩

end Scan

end StructLang
