import StructLang.Proofs.Token.Splits

/-!
# Fillers between lexemes

A filler is a gap that ends before whatever comes after it: each of its line comments has its line
feed. A filler that starts with a blank separates lexemes, for a lexeme before a blank is a lexeme
before any other one. So the texts of tokens can be written anew with other fillers between them,
and a scan finds the same tokens at other places.

* `exists_splits_of_writes` : texts that write the same token texts split alike.
-/

namespace StructLang.Scan

open Alphabet

/-! ## Fillers -/

/-- A blank or a comment that ends before whatever comes after it. -/
inductive FillerPiece : List Char → Prop
  | blank {character : Char} :
      character ∈ [' ', '\t', '\n', '\r'] →
      FillerPiece [character]
  | lineComment {body : List Char} :
      '\n' ∉ body →
      FillerPiece ('/' :: '/' :: (body ++ ['\n']))
  | blockComment {body : List Char} :
      ¬ ClosesComment body →
      FillerPiece ('/' :: '*' :: (body ++ ['*', '/']))

/-- A run of blanks and comments that ends before whatever comes after it. -/
inductive Filler : List Char → Prop
  | none : Filler []
  | more {piece filler : List Char} :
      FillerPiece piece → Filler filler → Filler (piece ++ filler)

/-- A filler that starts with a blank. -/
structure Separator (text : List Char) : Prop where
  startsBlank : ∃ blank ∈ text.head?, blank ∈ [' ', '\t', '\n', '\r']
  filler : Filler text

/-- Texts in order behind a lexeme, with a separator before each of them. What follows the last one
is a separator or nothing. -/
inductive Continues : List String → List Char → Prop
  | finish : Continues [] []
  | trailing {separator : List Char} : Separator separator → Continues [] separator
  | next {text : String} {others : List String} {separator rest : List Char} :
      Separator separator → Continues others rest →
      Continues (text :: others) (separator ++ (text.toList ++ rest))

/-- Texts in order with separators between them, behind a filler. -/
inductive Writes : List String → List Char → Prop
  | filler {filler : List Char} : Filler filler → Writes [] filler
  | texts {text : String} {others : List String} {filler rest : List Char} :
      Filler filler → Continues others rest →
      Writes (text :: others) (filler ++ (text.toList ++ rest))

/-- A filler is a gap before any text. -/
theorem Filler.gap
    {filler : List Char} (isFiller : Filler filler) (after : List Char) : Gap filler after := by
  induction isFiller with
  | none => exact .none
  | @more piece filler isPiece _ inductionHypothesis =>
      cases isPiece with
      | blank isBlank => exact .more (.blank isBlank) inductionHypothesis
      | @lineComment body oneLine =>
          -- The line feed ends the comment and is a blank of its own.
          have newline : Gap (['\n'] ++ filler) after :=
            .more (.blank (by simp)) inductionHypothesis
          have joined : Gap ('/' :: '/' :: body ++ (['\n'] ++ filler)) after :=
            .more (.lineComment oneLine (by simp)) newline
          simpa using joined
      | blockComment notClosed => exact .more (.blockComment notClosed) inductionHypothesis

theorem separator_blank : Separator [' '] where
  startsBlank := ⟨' ', rfl, by simp⟩
  filler := .more (.blank (by simp)) .none

/-- One blank before each text separates them. -/
theorem continues_spaced
    (texts : List String) : Continues texts (texts.flatMap fun text => ' ' :: text.toList) := by
  induction texts with
  | nil => exact .finish
  | cons text others inductionHypothesis => exact .next separator_blank inductionHypothesis

/-! ## Lexemes before blanks -/

/-- Whether a text is empty or starts with a blank. -/
def StandsApart (rest : List Char) : Prop :=
  ∀ next ∈ rest.head?, next ∈ [' ', '\t', '\n', '\r']

theorem Separator.standsApart_append
    {separator : List Char} (isSeparator : Separator separator) (rest : List Char) :
    StandsApart (separator ++ rest) := by
  obtain ⟨⟨blank, isFirst, isBlank⟩, -⟩ := isSeparator
  intro next isNext
  rw [List.eq_cons_of_mem_head? isFirst, List.cons_append, List.head?_cons,
    Option.mem_some_iff] at isNext
  rwa [← isNext]

theorem Continues.standsApart
    {texts : List String} {rest : List Char} (continues : Continues texts rest) :
    StandsApart rest := by
  cases continues with
  | finish => simp [StandsApart]
  | trailing isSeparator => simpa using isSeparator.standsApart_append []
  | next isSeparator _ => exact isSeparator.standsApart_append _

/-- No class of characters that lacks the blanks goes on where a text stands apart. -/
theorem StandsApart.notInClass
    {inClass : Char → Bool} (noneInClass : [' ', '\t', '\n', '\r'].any inClass = false)
    {rest : List Char} (apart : StandsApart rest) : ∀ next ∈ rest.head?, ¬ inClass next := by
  intro next isNext isInClass
  have isSome := List.any_eq_true.mpr ⟨next, apart next isNext, isInClass⟩
  rw [noneInClass] at isSome
  cases isSome

theorem not_startsComment_of_standsApart
    {characters rest other : List Char} (notEmpty : characters ≠ [])
    (noComment : ¬ StartsComment (characters ++ rest)) (apart : StandsApart other) :
    ¬ StartsComment (characters ++ other) := by
  intro startsComment
  match characters with
  | [] => exact notEmpty rfl
  | [first] =>
      cases other with
      | nil => simp [StartsComment] at startsComment
      | cons next others =>
          have isBlank := apart next rfl
          rcases startsComment with isLine | isBlock
          · simp only [List.cons_append, List.nil_append, List.cons_prefix_cons] at isLine
            rw [← isLine.2.1] at isBlank
            simp at isBlank
          · simp only [List.cons_append, List.nil_append, List.cons_prefix_cons] at isBlock
            rw [← isBlock.2.1] at isBlank
            simp at isBlank
  | first :: second :: others =>
      apply noComment
      simpa [StartsComment, List.cons_prefix_cons] using startsComment

theorem noBlank_of_mark
    {mark : String × TokenKind} (isMark : mark ∈ TokenKind.marks) :
    ∀ character ∈ mark.1.toList, character ∉ [' ', '\t', '\n', '\r'] := by
  have noneBlank : (TokenKind.marks.all fun mark => mark.1.toList.all fun character =>
      !([' ', '\t', '\n', '\r'].contains character)) = true := by
    decide +kernel
  intro character isThere isBlank
  have notBlank := List.all_eq_true.mp (List.all_eq_true.mp noneBlank mark isMark) _ isThere
  rw [List.contains_iff_mem.mpr isBlank] at notBlank
  cases notBlank

/-- No mark goes on from a text into one that stands apart. -/
theorem length_le_of_mark_prefix
    {mark : String × TokenKind} (isMark : mark ∈ TokenKind.marks) {characters other : List Char}
    (isPrefix : mark.1.toList <+: characters ++ other) (apart : StandsApart other) :
    mark.1.toList.length ≤ characters.length := by
  by_contra longer
  cases other with
  | nil =>
      rw [List.append_nil] at isPrefix
      exact longer isPrefix.length_le
  | cons next others =>
      have isLonger : (characters ++ [next]).length ≤ mark.1.toList.length := by
        simp only [List.length_append, List.length_singleton]
        omega
      have isBefore : characters ++ [next] <+: characters ++ next :: others := by simp
      have inMark := List.prefix_of_prefix_length_le isBefore isPrefix isLonger
      exact noBlank_of_mark isMark next (inMark.subset (by simp)) (apart next rfl)

/-- A lexeme before some text is one before any text that stands apart. -/
theorem IsLexeme.of_standsApart
    {kind : TokenKind} {characters rest other : List Char}
    (isLexeme : IsLexeme kind characters rest) (apart : StandsApart other) :
    IsLexeme kind characters other := by
  cases isLexeme with
  | number notEmpty areDigits _ =>
      refine .number notEmpty areDigits fun next isNext => ?_
      have noWord : ¬ startsWord next = true := apart.notInClass (by decide) next isNext
      rw [startsWord_iff, not_or] at noWord
      exact ⟨apart.notInClass (by decide) next isNext, noWord⟩
  | word starts continues _ =>
      exact .word starts continues (apart.notInClass (by decide))
  | @mark spelling _ _ isMark noComment _ =>
      have notEmpty : spelling.toList ≠ [] := by
        obtain ⟨first, others, isCons, -⟩ := first_of_mark isMark
        exact isCons ▸ List.cons_ne_nil _ _
      refine .mark isMark (not_startsComment_of_standsApart notEmpty noComment apart) ?_
      intro mark isMarkToo isPrefix
      simpa only [String.length_toList] using length_le_of_mark_prefix isMarkToo isPrefix apart

/-! ## Texts written anew -/

/-- The token texts of a split: those of all its tokens but the last one, which is none of the text.
-/
def texts (tokens : List Token) : List String :=
  tokens.dropLast.map Token.text

/-- Whether two runs of tokens differ at most in their places. -/
def SameTokens (tokens others : List Token) : Prop :=
  others.map (fun token => (token.kind, token.text)) =
    tokens.map fun token => (token.kind, token.text)

theorem SameTokens.cons
    {tokens others : List Token} (same : SameTokens tokens others) (kind : TokenKind)
    (text : String) (position otherPosition : Position) :
    SameTokens (⟨kind, text, position⟩ :: tokens) (⟨kind, text, otherPosition⟩ :: others) := by
  simpa only [SameTokens, List.map_cons, List.cons.injEq, true_and] using same

variable {before text other : List Char} {tokens : List Token}

/-- Behind a lexeme, a text that goes on with the same token texts splits alike. -/
theorem exists_splits_of_continues
    (splits : Splits before text tokens) (continues : Continues (texts tokens) other)
    (otherBefore : List Char) :
    ∃ others, Splits otherBefore other others ∧ SameTokens tokens others := by
  induction splits generalizing other otherBefore with
  | finish _ =>
      have isGap : Gap other [] := by
        cases continues with
        | finish => exact .none
        | trailing isSeparator => exact isSeparator.filler.gap []
      exact ⟨_, .finish isGap, rfl⟩
  | @lexeme before gap characters rest kind tokens _ isLexeme splits inductionHypothesis =>
      rw [texts, List.dropLast_cons_of_ne_nil splits.ne_nil] at continues
      cases continues with
      | @next _ _ separator rest isSeparator continues =>
          rw [String.toList_ofList]
          obtain ⟨others, splitsToo, same⟩ := inductionHypothesis continues
            (otherBefore ++ separator ++ characters)
          have isLexemeToo := isLexeme.of_standsApart continues.standsApart
          exact ⟨_, .lexeme (isSeparator.filler.gap _) isLexemeToo splitsToo, same.cons ..⟩

/-- A text that writes the same token texts splits alike. -/
theorem exists_splits_of_writes
    (splits : Splits before text tokens) (writes : Writes (texts tokens) other)
    (otherBefore : List Char) :
    ∃ others, Splits otherBefore other others ∧ SameTokens tokens others := by
  cases splits with
  | finish _ =>
      cases writes with
      | filler isFiller => exact ⟨_, .finish (isFiller.gap []), rfl⟩
  | @lexeme _ gap characters rest kind tokens _ isLexeme splits =>
      rw [texts, List.dropLast_cons_of_ne_nil splits.ne_nil] at writes
      cases writes with
      | @texts _ _ filler rest isFiller continues =>
          rw [String.toList_ofList]
          obtain ⟨others, splitsToo, same⟩ := exists_splits_of_continues splits continues
            (otherBefore ++ filler ++ characters)
          have isLexemeToo := isLexeme.of_standsApart continues.standsApart
          exact ⟨_, .lexeme (isFiller.gap _) isLexemeToo splitsToo, same.cons ..⟩

end StructLang.Scan
