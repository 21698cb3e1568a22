import StructLang.Proofs.Token.LineEnds

/-!
# A text below another one

At the end of a line a scan knows nothing but which line ended: no gap but a line comment reaches up
to there, and no lexeme is told from the next line. So a text below a text that splits into tokens
is scanned as it is on its own, only further down.

- `Splits.below`, `Breaks.below` : behind a text that splits and a line feed.
- `scan_below` : the tokens, or the fault, of a text with another one above it.
-/

namespace StructLang

/-! ## Further down -/

/-- The place some lines further down. -/
def Position.lowered (lines : Nat) (position : Position) : Position :=
  ⟨position.line + lines, position.column⟩

/-- A token some lines further down. -/
def Token.lowered (lines : Nat) (token : Token) : Token :=
  { token with position := token.position.lowered lines }

/-- A fault some lines further down. -/
def LexFault.lowered (lines : Nat) : LexFault → LexFault
  | openComment position => openComment (position.lowered lines)
  | gluedInteger text position => gluedInteger text (position.lowered lines)
  | strayCharacter character position => strayCharacter character (position.lowered lines)

@[simp] theorem LexFault.message_lowered
    (lines : Nat) (fault : LexFault) : (fault.lowered lines).message = fault.message := by
  cases fault <;> rfl

@[simp] theorem LexFault.position_lowered
    (lines : Nat) (fault : LexFault) :
    (fault.lowered lines).position = fault.position.lowered lines := by
  cases fault <;> rfl

/-- A place behind whole lines is that much further down. -/
theorem Position.behind_below
    (above before : List Char) :
    behind (above ++ '\n' :: before) = (behind before).lowered (above.count '\n' + 1) := by
  have sameFront : (above ++ '\n' :: before).reverse.takeWhile (· ≠ '\n') =
      before.reverse.takeWhile (· ≠ '\n') := by
    rw [List.reverse_append, List.reverse_cons, List.append_assoc, List.takeWhile_append]
    split
    · rw [List.singleton_append, List.takeWhile_cons_of_neg (by simp), List.append_nil]
      exact ((List.takeWhile_prefix _).eq_of_length ‹_›).symm
    · rfl
  have feeds : (above ++ '\n' :: before).count '\n' =
      before.count '\n' + (above.count '\n' + 1) := by
    rw [List.count_append, List.count_cons_self]
    omega
  rw [behind, sameFront, feeds, Int.natCast_add, ← Int.add_assoc]
  rfl

namespace Scan

/-! ## What reaches the end of a line -/

variable {above below text : List Char} {place : Position} {fault : LexFault}

/-- What comes first in front of a line feed came first already, or there is nothing. -/
theorem head?_append_feed
    (text below : List Char) :
    ∀ next ∈ (text ++ '\n' :: below).head?, next = '\n' ∨ next ∈ text.head? := by
  intro next isNext
  cases text with
  | nil => exact Or.inl (Option.some.inj isNext).symm
  | cons first others => exact Or.inr isNext

/-- Characters without a line feed that come first do so in front of the next one. -/
theorem prefix_of_prefix_append_feed
    {characters : List Char} (oneLine : '\n' ∉ characters)
    (isPrefix : characters <+: text ++ '\n' :: below) : characters <+: text := by
  rcases List.prefix_or_prefix_of_prefix isPrefix (List.prefix_append text _) with isShort | isLong
  · exact isShort
  · obtain ⟨rest, rfl⟩ := isLong
    have isRest := (List.prefix_append_right_inj text).mp isPrefix
    cases rest with
    | nil => simp only [List.append_nil, List.prefix_rfl]
    | cons first others =>
        obtain ⟨rfl, -⟩ := List.cons_prefix_cons.mp isRest
        exact absurd (List.mem_append_right text List.mem_cons_self) oneLine

theorem not_startsComment_append_feed
    (noComment : ¬ StartsComment text) (below : List Char) :
    ¬ StartsComment (text ++ '\n' :: below) := by
  rintro (isLine | isBlock)
  · exact noComment (Or.inl (prefix_of_prefix_append_feed (by decide) isLine))
  · exact noComment (Or.inr (prefix_of_prefix_append_feed (by decide) isBlock))

theorem GapPiece.append_feed
    {piece after : List Char} (isPiece : GapPiece piece after) (below : List Char) :
    GapPiece piece (after ++ '\n' :: below) := by
  cases isPiece with
  | blank isBlank => exact .blank isBlank
  | lineComment oneLine untilEnd =>
      refine .lineComment oneLine fun next isNext => ?_
      exact (head?_append_feed after below next isNext).elim id (untilEnd next)
  | blockComment notClosed => exact .blockComment notClosed

/-- A gap is one in front of the next line too. -/
theorem Gap.append_feed
    {gap after : List Char} (isGap : Gap gap after) (below : List Char) :
    Gap gap (after ++ '\n' :: below) := by
  induction isGap with
  | none => exact .none
  | more isPiece _ inductionHypothesis =>
      have isPieceToo := isPiece.append_feed below
      rw [List.append_assoc] at isPieceToo
      exact .more isPieceToo inductionHypothesis

/-- A lexeme is one in front of the next line too. -/
theorem IsLexeme.append_feed
    {kind : TokenKind} {characters rest : List Char} (isLexeme : IsLexeme kind characters rest)
    (below : List Char) : IsLexeme kind characters (rest ++ '\n' :: below) := by
  cases isLexeme with
  | number notEmpty areDigits stops =>
      refine .number notEmpty areDigits fun next isNext => ?_
      rcases head?_append_feed rest below next isNext with rfl | isFirst
      · decide
      · exact stops next isFirst
  | word starts continues stops =>
      refine .word starts continues fun next isNext => ?_
      rcases head?_append_feed rest below next isNext with rfl | isFirst
      · decide
      · exact stops next isFirst
  | @mark spelling _ _ isMark noComment longest =>
      have noFeed : ∀ mark ∈ TokenKind.marks, '\n' ∉ mark.1.toList := by decide +kernel
      refine .mark isMark ?_ fun other isOther isPrefix => ?_
      · rw [← List.append_assoc]
        exact not_startsComment_append_feed noComment below
      · rw [← List.append_assoc] at isPrefix
        exact longest other isOther (prefix_of_prefix_append_feed (noFeed other isOther) isPrefix)

/-! ## Gaps in front of a text -/

theorem Gap.append
    {gap further after : List Char} (isGap : Gap gap (further ++ after))
    (isFurther : Gap further after) : Gap (gap ++ further) after := by
  generalize isText : further ++ after = text at isGap
  induction isGap with
  | none => exact isFurther
  | more isPiece _ inductionHypothesis =>
      rw [← isText, ← List.append_assoc] at isPiece
      rw [List.append_assoc]
      exact .more isPiece (inductionHypothesis isText)

variable {before gap : List Char} {tokens later : List Token} {finish : Token}

theorem Splits.skip_gap
    (isGap : Gap gap text) (splits : Splits (before ++ gap) text tokens) :
    Splits before (gap ++ text) tokens := by
  cases splits with
  | finish isGapToo =>
      rw [List.append_assoc]
      exact .finish ((by rwa [List.append_nil] : Gap gap (_ ++ [])).append isGapToo)
  | lexeme isGapToo isLexeme splits =>
      rw [List.append_assoc before] at splits ⊢
      rw [← List.append_assoc gap]
      exact .lexeme (isGap.append isGapToo) isLexeme splits

theorem Breaks.skip_gap
    (isGap : Gap gap text) (breaks : Breaks (before ++ gap) text fault) :
    Breaks before (gap ++ text) fault := by
  cases breaks with
  | here isGapToo offends =>
      rw [List.append_assoc] at offends
      rw [← List.append_assoc]
      exact .here (isGap.append isGapToo) offends
  | later isGapToo isLexeme breaks =>
      rw [List.append_assoc before] at breaks
      rw [← List.append_assoc gap]
      exact .later (isGap.append isGapToo) isLexeme breaks

/-! ## Behind a text that splits -/

/-- A gap that ends a text, with the end of its line. -/
theorem Gap.feed
    (isGap : Gap gap []) (below : List Char) : Gap (gap ++ ['\n']) below := by
  have isFeed : Gap (['\n'] ++ []) below := .more (.blank (by simp)) .none
  exact Gap.append (isGap.append_feed below) isFeed

/-- A text below a text that splits goes on with its own tokens. -/
theorem Splits.append_feed
    (splits : Splits before above tokens)
    (splitsBelow : Splits (before ++ above ++ ['\n']) text later) :
    Splits before (above ++ '\n' :: text) (tokens.dropLast ++ later) := by
  induction splits with
  | finish isGap =>
      rw [List.append_assoc] at splitsBelow
      rw [List.append_cons]
      exact splitsBelow.skip_gap (isGap.feed text)
  | @lexeme before gap characters rest kind tokens isGap isLexeme splits inductionHypothesis =>
      have isGapToo := isGap.append_feed text
      have splitsLater := inductionHypothesis (by simpa using splitsBelow)
      rw [List.append_assoc] at isGapToo
      rw [List.append_assoc, List.append_assoc, List.dropLast_cons_of_ne_nil splits.ne_nil]
      exact .lexeme isGapToo (isLexeme.append_feed text) splitsLater

/-- A text below a text that splits breaks where it does so on its own. -/
theorem Breaks.append_feed
    (splits : Splits before above tokens)
    (breaks : Breaks (before ++ above ++ ['\n']) text fault) :
    Breaks before (above ++ '\n' :: text) fault := by
  induction splits with
  | finish isGap =>
      rw [List.append_assoc] at breaks
      rw [List.append_cons]
      exact breaks.skip_gap (isGap.feed text)
  | @lexeme before gap characters rest kind tokens isGap isLexeme _ inductionHypothesis =>
      have isGapToo := isGap.append_feed text
      have breaksLater := inductionHypothesis (by simpa using breaks)
      rw [List.append_assoc] at isGapToo
      rw [List.append_assoc, List.append_assoc]
      exact .later isGapToo (isLexeme.append_feed text) breaksLater

/-! ## The same text further down -/

/-- Below some lines a text splits into the same tokens, that much further down. -/
theorem Splits.lowered
    (splits : Splits before text tokens) (above : List Char) :
    Splits (above ++ '\n' :: before) text (tokens.map (.lowered (above.count '\n' + 1))) := by
  induction splits with
  | finish isGap =>
      rw [List.map_singleton, Token.lowered, ← Position.behind_below, ← List.cons_append,
        ← List.append_assoc above]
      exact .finish isGap
  | lexeme isGap isLexeme _ inductionHypothesis =>
      rw [List.map_cons, Token.lowered, ← Position.behind_below, ← List.cons_append,
        ← List.append_assoc above]
      refine .lexeme isGap isLexeme ?_
      simpa using inductionHypothesis

theorem Offends.lowered
    (offends : Offends text place fault) (lines : Nat) :
    Offends text (place.lowered lines) (fault.lowered lines) := by
  cases offends with
  | openComment notClosed => exact .openComment notClosed
  | gluedInteger notEmpty areDigits isGlued => exact .gluedInteger notEmpty areDigits isGlued
  | strayCharacter notBlank noDigit noLetter noUnderscore noMark =>
      exact .strayCharacter notBlank noDigit noLetter noUnderscore noMark

/-- Below some lines a text breaks at the same fault, that much further down. -/
theorem Breaks.lowered
    (breaks : Breaks before text fault) (above : List Char) :
    Breaks (above ++ '\n' :: before) text (fault.lowered (above.count '\n' + 1)) := by
  induction breaks with
  | here isGap offends =>
      have offendsToo := offends.lowered (above.count '\n' + 1)
      rw [← Position.behind_below] at offendsToo
      exact .here isGap (by simpa using offendsToo)
  | later isGap isLexeme _ inductionHypothesis =>
      exact .later isGap isLexeme (by simpa using inductionHypothesis)

end Scan

/-! ## Scans -/

/-- Below a text that splits into tokens, a text is scanned as it is on its own: its tokens follow
those of the text above without the one that marks the end there, or its fault is the one of both,
one line further down for the line feed between the texts and for each one above. -/
theorem scan_below
    {above : String} {tokens : List Token} (scanned : scan above = .ok tokens) (below : String) :
    (∃ finish, tokens = tokens.dropLast ++ [finish] ∧ finish.kind = .finish) ∧
      (∀ later, scan below = .ok later →
        scan (above ++ "\n" ++ below) =
          .ok (tokens.dropLast ++ later.map (.lowered (above.toList.count '\n' + 1)))) ∧
      ∀ fault, scan below = .error fault →
        ∃ lowered, scan (above ++ "\n" ++ below) = .error lowered ∧
          lowered.message = fault.message ∧
          lowered.position = fault.position.lowered (above.toList.count '\n' + 1) := by
  have splits := Scan.splits_of_scan scanned
  have isScan : scan (above ++ "\n" ++ below) =
      Scan.scanFrom (.behind []) (above.toList ++ '\n' :: below.toList) := by
    rw [scan, String.toList_append, String.toList_append, List.append_assoc]
    rfl
  refine ⟨?_, fun later scannedBelow => ?_, fun fault failed => ?_⟩
  · obtain ⟨earlier, finish, rfl, isFinish, -⟩ := splits.exists_append_finish
    exact ⟨finish, by rw [List.dropLast_concat], isFinish⟩
  · have splitsBelow := (Scan.splits_of_scan scannedBelow).lowered above.toList
    rw [isScan]
    exact Scan.scanFrom_of_splits (splits.append_feed splitsBelow)
  · have breaks := (Scan.breaks_of_scan failed).lowered above.toList
    refine ⟨_, ?_, LexFault.message_lowered _ fault, LexFault.position_lowered _ fault⟩
    rw [isScan]
    exact Scan.scanFrom_of_breaks (Scan.Breaks.append_feed splits breaks)

/-- No comment starts where a slash ends one line and another slash starts the next one. -/
theorem scan_below_slash :
    scan "x/" = .ok [⟨.identifier, "x", ⟨1, 1⟩⟩, ⟨.slash, "/", ⟨1, 2⟩⟩, ⟨.finish, "", ⟨1, 3⟩⟩] ∧
      scan "/y" = .ok [⟨.slash, "/", ⟨1, 1⟩⟩, ⟨.identifier, "y", ⟨1, 2⟩⟩, ⟨.finish, "", ⟨1, 3⟩⟩] ∧
      scan ("x/" ++ "\n" ++ "/y") =
        .ok [⟨.identifier, "x", ⟨1, 1⟩⟩, ⟨.slash, "/", ⟨1, 2⟩⟩, ⟨.slash, "/", ⟨2, 1⟩⟩,
          ⟨.identifier, "y", ⟨2, 2⟩⟩, ⟨.finish, "", ⟨2, 3⟩⟩] := by
  have scanned : scan "x/" =
      .ok [⟨.identifier, "x", ⟨1, 1⟩⟩, ⟨.slash, "/", ⟨1, 2⟩⟩, ⟨.finish, "", ⟨1, 3⟩⟩] :=
    Scan.scan_of_scansTo rfl (by decide +kernel)
  have scannedBelow : scan "/y" =
      .ok [⟨.slash, "/", ⟨1, 1⟩⟩, ⟨.identifier, "y", ⟨1, 2⟩⟩, ⟨.finish, "", ⟨1, 3⟩⟩] :=
    Scan.scan_of_scansTo rfl (by decide +kernel)
  obtain ⟨-, isScan, -⟩ := scan_below scanned "/y"
  exact ⟨scanned, scannedBelow, isScan _ scannedBelow⟩

end StructLang
