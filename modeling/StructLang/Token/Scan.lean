import StructLang.Alphabet.Blank
import StructLang.Alphabet.Word
import StructLang.Token.Basic
import StructLang.Token.Trie

/-!
# From text to tokens

A source text is a gap, then lexemes with a gap after each. `skipGap` passes over blanks and
comments, `readLexeme` takes the longest number, word or mark at its start, and `scanFrom`
alternates the two up to the end of the text, which is itself reported as a token.
-/

namespace StructLang

/-- Why a text does not split into tokens. -/
inductive LexFault
  | openComment (position : Position)
  | gluedInteger (text : String) (position : Position)
  | strayCharacter (character : Char) (position : Position)
  deriving DecidableEq, Repr

namespace LexFault

/-- The place a fault points at. -/
def position : LexFault → Position
  | openComment position => position
  | gluedInteger _ position => position
  | strayCharacter _ position => position

/-- What is wrong, without the place. -/
def message : LexFault → String
  | openComment _ => "Unterminated block comment"
  | gluedInteger text _ => s!"Invalid integer literal '{text}'"
  | strayCharacter character _ => s!"Unexpected character '{character}'"

end LexFault

namespace Scan

/-! ## Gaps -/

/-- Where a gap is being read: outside comments, in a line comment, or in a block comment that
was opened at a known place. -/
inductive GapPart
  | blank
  | lineComment
  | blockComment (opened : Position)
  deriving DecidableEq, Repr

/-- Passes over blanks and comments; gives the place and the text where the gap ends. -/
def skipGap : GapPart → Position → List Char → Except LexFault (Position × List Char)
  | .blank, position, [] => .ok (position, [])
  | .blank, position, '/' :: '/' :: rest =>
      skipGap .lineComment (position.afterAll ['/', '/']) rest
  | .blank, position, '/' :: '*' :: rest =>
      skipGap (.blockComment position) (position.afterAll ['/', '*']) rest
  | .blank, position, character :: rest =>
      if Alphabet.separatesTokens character then
        skipGap .blank (position.after character) rest
      else .ok (position, character :: rest)
  | .lineComment, position, [] => .ok (position, [])
  | .lineComment, position, character :: rest =>
      if character = '\n' then skipGap .blank (position.after character) rest
      else skipGap .lineComment (position.after character) rest
  | .blockComment opened, _, [] => .error (.openComment opened)
  | .blockComment _, position, '*' :: '/' :: rest =>
      skipGap .blank (position.afterAll ['*', '/']) rest
  | .blockComment opened, position, character :: rest =>
      skipGap (.blockComment opened) (position.after character) rest

/-- A gap never gives back more text than there was. -/
theorem skipGap_length_le
    {part : GapPart} {position final : Position} {text rest : List Char}
    (skipped : skipGap part position text = .ok (final, rest)) :
    rest.length ≤ text.length := by
  fun_induction skipGap part position text with
  | case1 => cases skipped; simp
  | case2 position rest inductionHypothesis =>
      have bound := inductionHypothesis skipped
      simp only [List.length_cons]
      omega
  | case3 position rest inductionHypothesis =>
      have bound := inductionHypothesis skipped
      simp only [List.length_cons]
      omega
  | case4 position character rest _ _ _ inductionHypothesis =>
      exact Nat.le_succ_of_le (inductionHypothesis skipped)
  | case5 => cases skipped; simp
  | case6 => cases skipped; simp
  | case7 position rest inductionHypothesis =>
      exact Nat.le_succ_of_le (inductionHypothesis skipped)
  | case8 position character rest _ inductionHypothesis =>
      exact Nat.le_succ_of_le (inductionHypothesis skipped)
  | case9 => cases skipped
  | case10 opened position rest inductionHypothesis =>
      have bound := inductionHypothesis skipped
      simp only [List.length_cons]
      omega
  | case11 opened position character rest _ inductionHypothesis =>
      exact Nat.le_succ_of_le (inductionHypothesis skipped)

/-! ## Lexemes -/

/-- A number, word or mark found at the start of a text, and the text after it. -/
structure Lexeme where
  kind : TokenKind
  characters : List Char
  rest : List Char
  deriving DecidableEq, Repr

/-- The marks of the language, ready for the search of the longest one. -/
def markTrie : Trie (List Char × TokenKind) :=
  Trie.ofTable (TokenKind.marks.map fun (spelling, kind) =>
    (spelling.toList, (spelling.toList, kind)))

/-- The lexeme at the start of a non-empty text. A number must not run into a letter or an
underscore. -/
def readLexeme (position : Position) (first : Char) (others : List Char) :
    Except LexFault Lexeme :=
  if Alphabet.isDigit first then
    let digits := first :: others.takeWhile Alphabet.isDigit
    let rest := others.dropWhile Alphabet.isDigit
    match rest with
    | [] => .ok ⟨.integer, digits, rest⟩
    | next :: _ =>
        if Alphabet.startsWord next then
          .error (.gluedInteger (String.ofList (digits ++ [next])) position)
        else .ok ⟨.integer, digits, rest⟩
  else if Alphabet.startsWord first then
    let word := first :: others.takeWhile Alphabet.continuesWord
    .ok ⟨.ofWord (String.ofList word), word, others.dropWhile Alphabet.continuesWord⟩
  else
    match markTrie.longest? (first :: others) with
    | some ((spelling, kind), rest) => .ok ⟨kind, spelling, rest⟩
    | none => .error (.strayCharacter first position)

/-- The text after a lexeme is shorter than the text it was read from. -/
theorem readLexeme_length_lt
    {position : Position} {first : Char} {others : List Char} {lexeme : Lexeme}
    (found : readLexeme position first others = .ok lexeme) :
    lexeme.rest.length < (first :: others).length := by
  have dropLength (keep : Char → Bool) :
      (others.dropWhile keep).length < (first :: others).length :=
    Nat.lt_succ_of_le (List.dropWhile_suffix keep).length_le
  simp only [readLexeme] at found
  split at found
  · split at found
    · cases found
      simp_all
    · split at found
      · cases found
      · cases found
        exact dropLength _
  · split at found
    · cases found
      exact dropLength _
    · split at found
      · rename_i equality
        cases found
        exact Trie.longest?_length_lt equality
      · cases found

/-! ## Texts -/

/-- The tokens of the text from a place on, up to and including the token of its end. -/
def scanFrom (position : Position) (text : List Char) : Except LexFault (List Token) :=
  match _ : skipGap .blank position text with
  | .error fault => .error fault
  | .ok (place, []) => .ok [⟨.finish, "", place⟩]
  | .ok (place, first :: others) =>
      match _ : readLexeme place first others with
      | .error fault => .error fault
      | .ok lexeme =>
          match scanFrom (place.afterAll lexeme.characters) lexeme.rest with
          | .error fault => .error fault
          | .ok tokens =>
              .ok (⟨lexeme.kind, String.ofList lexeme.characters, place⟩ :: tokens)
termination_by text.length
decreasing_by
  exact Nat.lt_of_lt_of_le (readLexeme_length_lt (by assumption))
    (skipGap_length_le (by assumption))

end Scan

/-- The tokens of a source text; the last one marks its end. -/
def scan (source : String) : Except LexFault (List Token) :=
  Scan.scanFrom .start source.toList

/-- The tokens of a source text that was read to its end several times: each further reading adds
the token of the end once more. -/
def scanRepeatedly (source : String) (times : Nat) : Except LexFault (List Token) := do
  let tokens ← scan source
  match times, tokens.getLast? with
  | further + 1, some finish => return tokens ++ List.replicate further finish
  | _, _ => return []

end StructLang
