import StructLang.Proofs.Token.Lexemes

/-!
# Texts split into lexemes

A text splits into tokens if it is a gap, a lexeme, a gap and so on up to a last gap. Every
character is accounted for once, and every place is told by the characters before it.

* A scan succeeds exactly on the texts that split, with the tokens of the split.
* A scan fails exactly on the texts that do not split, with what is wrong at the first place at
  which neither a gap nor a lexeme goes on.
-/

namespace StructLang

/-! ## Places -/

/-- The place behind some characters: one more than the line feeds among them, and one more than
the characters behind the last of those. -/
def Position.behind (before : List Char) : Position :=
  ⟨1 + before.count '\n', 1 + (before.reverse.takeWhile (· ≠ '\n')).length⟩

theorem Position.after_behind
    (before : List Char) (character : Char) :
    (behind before).after character = behind (before ++ [character]) := by
  by_cases isNewline : character = '\n'
  · simp [behind, after, isNewline]
    omega
  · have notCounted : (before ++ [character]).count '\n' = before.count '\n' := by
      simp [isNewline]
    simp [behind, after, isNewline, notCounted]
    omega

theorem Position.afterAll_behind
    (before characters : List Char) :
    (behind before).afterAll characters = behind (before ++ characters) := by
  induction characters generalizing before with
  | nil => simp
  | cons head tail inductionHypothesis =>
      rw [afterAll_cons, after_behind, inductionHypothesis, List.append_assoc]
      rfl

/-! ## Tokens -/

/-- A token stands before the end of a text, and is a run of digits if it is a number. -/
def Token.IsScanned (token : Token) : Prop :=
  token.kind ≠ .finish ∧
    (token.kind = .integer → token.text.toList ≠ [] ∧
      ∀ character ∈ token.text.toList, Alphabet.isDigit character = true)

namespace Scan

/-! ## Splits -/

/-- Behind some characters, a text splits into the lexemes that tokens show. -/
inductive Splits : List Char → List Char → List Token → Prop
  | finish {before gap : List Char} :
      Gap gap [] →
      Splits before gap [⟨.finish, "", .behind (before ++ gap)⟩]
  | lexeme {before gap characters rest : List Char} {kind : TokenKind} {tokens : List Token} :
      Gap gap (characters ++ rest) →
      IsLexeme kind characters rest →
      Splits (before ++ gap ++ characters) rest tokens →
      Splits before (gap ++ (characters ++ rest))
        (⟨kind, String.ofList characters, .behind (before ++ gap)⟩ :: tokens)

/-- Behind some characters, a text splits up to a place at which something is wrong. -/
inductive Breaks : List Char → List Char → LexFault → Prop
  | here {before gap rest : List Char} {fault : LexFault} :
      Gap gap rest →
      Offends rest (.behind (before ++ gap)) fault →
      Breaks before (gap ++ rest) fault
  | later {before gap characters rest : List Char} {kind : TokenKind} {fault : LexFault} :
      Gap gap (characters ++ rest) →
      IsLexeme kind characters rest →
      Breaks (before ++ gap ++ characters) rest fault →
      Breaks before (gap ++ (characters ++ rest)) fault

theorem Splits.ne_nil
    {before text : List Char} {tokens : List Token} (splits : Splits before text tokens) :
    tokens ≠ [] := by
  cases splits <;> exact List.cons_ne_nil _ _

/-! ## A scan step by step -/

theorem scanFrom_of_gap_error
    {position : Position} {text : List Char} {fault : LexFault}
    (isFault : skipGap .blank position text = .error fault) :
    scanFrom position text = .error fault := by
  rw [scanFrom]
  split <;> simp_all

theorem scanFrom_of_gap_end
    {position place : Position} {text : List Char}
    (isEnd : skipGap .blank position text = .ok (place, [])) :
    scanFrom position text = .ok [⟨.finish, "", place⟩] := by
  rw [scanFrom]
  split <;> simp_all

theorem scanFrom_of_lexeme_error
    {position place : Position} {text others : List Char} {first : Char} {fault : LexFault}
    (isGap : skipGap .blank position text = .ok (place, first :: others))
    (isFault : readLexeme place first others = .error fault) :
    scanFrom position text = .error fault := by
  rw [scanFrom]
  split
  case h_1 | h_2 => simp_all
  case h_3 otherPlace otherFirst otherOthers otherGap =>
    rw [isGap] at otherGap
    cases otherGap
    split <;> simp_all

theorem scanFrom_of_lexeme
    {position place : Position} {text others : List Char} {first : Char} {lexeme : Lexeme}
    (isGap : skipGap .blank position text = .ok (place, first :: others))
    (isLexeme : readLexeme place first others = .ok lexeme) :
    scanFrom position text =
      (scanFrom (place.afterAll lexeme.characters) lexeme.rest).map
        (⟨lexeme.kind, String.ofList lexeme.characters, place⟩ :: ·) := by
  rw [scanFrom]
  split
  case h_1 | h_2 => simp_all
  case h_3 otherPlace otherFirst otherOthers otherGap =>
    rw [isGap] at otherGap
    cases otherGap
    split
    case h_1 => simp_all
    case h_2 otherLexeme otherIsLexeme =>
      rw [isLexeme] at otherIsLexeme
      cases otherIsLexeme
      cases scanFrom (place.afterAll lexeme.characters) lexeme.rest <;> rfl

/-! ## A split is scanned -/

/-- A gap and a lexeme are one step of a scan. -/
theorem scanFrom_append
    {before gap characters rest : List Char} {kind : TokenKind}
    (isGap : Gap gap (characters ++ rest)) (isLexeme : IsLexeme kind characters rest) :
    scanFrom (.behind before) (gap ++ (characters ++ rest)) =
      (scanFrom (.behind (before ++ gap ++ characters)) rest).map
        (⟨kind, String.ofList characters, .behind (before ++ gap)⟩ :: ·) := by
  obtain ⟨first, others, isText, ends, isRead⟩ :=
    readLexeme_of_isLexeme isLexeme (.behind (before ++ gap))
  have skipped : skipGap .blank (.behind before) (gap ++ (characters ++ rest)) =
      .ok (.behind (before ++ gap), first :: others) := by
    rw [skipGap_gap isGap, Position.afterAll_behind, isText]
    exact skipGap_endsGap ends _
  have stepped := scanFrom_of_lexeme skipped isRead
  rw [Position.afterAll_behind] at stepped
  exact stepped

theorem scanFrom_of_splits
    {before text : List Char} {tokens : List Token} (splits : Splits before text tokens) :
    scanFrom (.behind before) text = .ok tokens := by
  induction splits with
  | @finish before gap isGap =>
      apply scanFrom_of_gap_end
      have skipped := skipGap_gap isGap (.behind before)
      rw [List.append_nil, Position.afterAll_behind] at skipped
      exact skipped
  | lexeme isGap isLexeme _ inductionHypothesis =>
      rw [scanFrom_append isGap isLexeme, inductionHypothesis]
      rfl

theorem scanFrom_of_breaks
    {before text : List Char} {fault : LexFault} (breaks : Breaks before text fault) :
    scanFrom (.behind before) text = .error fault := by
  induction breaks with
  | @here before gap rest fault isGap offends =>
      have skipped := skipGap_gap isGap (.behind before)
      rw [Position.afterAll_behind] at skipped
      rcases readLexeme_of_offends offends with
        ⟨body, rfl, notClosed, rfl⟩ | ⟨first, others, rfl, ends, isFault⟩
      · apply scanFrom_of_gap_error
        rw [skipped]
        exact skipGap_openComment notClosed _ _
      · apply scanFrom_of_lexeme_error _ isFault
        rw [skipped]
        exact skipGap_endsGap ends _
  | later isGap isLexeme _ inductionHypothesis =>
      rw [scanFrom_append isGap isLexeme, inductionHypothesis]
      rfl

/-! ## A scan is a split -/

/-- Every text splits or breaks, and a scan tells which. -/
theorem scanFrom_spec
    (before text : List Char) :
    match scanFrom (.behind before) text with
    | .ok tokens => Splits before text tokens
    | .error fault => Breaks before text fault := by
  induction isSize : text.length using Nat.strong_induction_on generalizing before text with
  | _ size inductionHypothesis =>
      cases skipped : skipGap .blank (.behind before) text with
      | error fault =>
          rw [scanFrom_of_gap_error skipped]
          rcases skipGap_error skipped with
            ⟨gap, body, rfl, isGap, notClosed, rfl⟩ | ⟨opened, isBlock, -⟩
          · rw [Position.afterAll_behind]
            exact Breaks.here isGap (.openComment notClosed)
          · cases isBlock
      | ok pair =>
          obtain ⟨place, rest⟩ := pair
          obtain ⟨gap, rfl, isGap, rfl, ends⟩ := skipGap_ok skipped
          rw [Position.afterAll_behind] at skipped
          cases rest with
          | nil =>
              rw [scanFrom_of_gap_end skipped, List.append_nil]
              exact Splits.finish isGap
          | cons first others =>
              cases isRead : readLexeme (.behind (before ++ gap)) first others with
              | error fault =>
                  rw [scanFrom_of_lexeme_error skipped isRead]
                  exact Breaks.here isGap (offends_of_readLexeme isRead ends)
              | ok lexeme =>
                  obtain ⟨split, isLexeme⟩ := isLexeme_of_readLexeme isRead ends
                  have shorter : lexeme.rest.length < size := by
                    have lexemeLength := readLexeme_length_lt isRead
                    rw [← isSize, List.length_append]
                    omega
                  have later := inductionHypothesis _ shorter
                    (before ++ gap ++ lexeme.characters) lexeme.rest rfl
                  have isGapHere : Gap gap (lexeme.characters ++ lexeme.rest) := split ▸ isGap
                  rw [split, scanFrom_append isGapHere isLexeme]
                  cases scanned : scanFrom (.behind (before ++ gap ++ lexeme.characters))
                      lexeme.rest with
                  | ok tokens =>
                      rw [scanned] at later
                      exact Splits.lexeme isGapHere isLexeme later
                  | error fault =>
                      rw [scanned] at later
                      exact Breaks.later isGapHere isLexeme later

theorem start_eq_behind : Position.start = .behind [] := rfl

theorem splits_of_scan
    {source : String} {tokens : List Token} (scanned : scan source = .ok tokens) :
    Splits [] source.toList tokens := by
  have spec := scanFrom_spec [] source.toList
  rwa [← start_eq_behind, show scanFrom .start source.toList = .ok tokens from scanned] at spec

theorem breaks_of_scan
    {source : String} {fault : LexFault} (failed : scan source = .error fault) :
    Breaks [] source.toList fault := by
  have spec := scanFrom_spec [] source.toList
  rwa [← start_eq_behind, show scanFrom .start source.toList = .error fault from failed] at spec

/-! ## Scans of known tokens -/

/-- Whether a text splits into tokens from a place on, one step for each of them. -/
def scansTo (position : Position) (text : List Char) : List Token → Bool
  | [] => false
  | token :: tail =>
      match skipGap .blank position text with
      | .error _ => false
      | .ok (place, []) => token :: tail = [⟨.finish, "", place⟩]
      | .ok (place, first :: others) =>
          match readLexeme place first others with
          | .error _ => false
          | .ok lexeme =>
              token = ⟨lexeme.kind, String.ofList lexeme.characters, place⟩ &&
                scansTo (place.afterAll lexeme.characters) lexeme.rest tail

theorem scanFrom_of_scansTo
    {position : Position} {text : List Char} {tokens : List Token}
    (isScanned : scansTo position text tokens) : scanFrom position text = .ok tokens := by
  induction tokens generalizing position text with
  | nil => cases isScanned
  | cons token tail inductionHypothesis =>
      rw [scansTo] at isScanned
      cases isGap : skipGap .blank position text with
      | error fault =>
          rw [isGap] at isScanned
          cases isScanned
      | ok found =>
          obtain ⟨place, rest⟩ := found
          rw [isGap] at isScanned
          cases rest with
          | nil => rw [scanFrom_of_gap_end isGap, of_decide_eq_true isScanned]
          | cons first others =>
              dsimp only at isScanned
              cases isLexeme : readLexeme place first others with
              | error fault =>
                  rw [isLexeme] at isScanned
                  cases isScanned
              | ok lexeme =>
                  rw [isLexeme, Bool.and_eq_true] at isScanned
                  obtain ⟨isToken, isTail⟩ := isScanned
                  rw [scanFrom_of_lexeme isGap isLexeme, inductionHypothesis isTail,
                    of_decide_eq_true isToken]
                  rfl

/-- The tokens of a text that is written as a list of characters. -/
theorem scan_of_scansTo
    {source : String} {characters : List Char} {tokens : List Token}
    (isText : String.ofList characters = source) (isScanned : scansTo .start characters tokens) :
    scan source = .ok tokens := by
  rw [scan, ← isText, String.toList_ofList]
  exact scanFrom_of_scansTo isScanned

/-! ## The tokens of a text -/

theorem ofWord_mem
    (text : String) : TokenKind.ofWord text ∈ .identifier :: TokenKind.words.map Prod.snd := by
  rw [TokenKind.ofWord]
  cases found : TokenKind.words.lookup text with
  | none => exact List.mem_cons_self
  | some kind =>
      obtain ⟨before, after, isTable, -⟩ := List.lookup_eq_some_iff.mp found
      refine List.mem_cons_of_mem _ (List.mem_map.mpr ⟨(text, kind), ?_, rfl⟩)
      rw [isTable]
      simp

theorem isScanned_of_isLexeme
    {kind : TokenKind} {characters rest : List Char} (isLexeme : IsLexeme kind characters rest)
    (place : Position) : Token.IsScanned ⟨kind, String.ofList characters, place⟩ := by
  have ofTable {table : List TokenKind} (notEnd : .finish ∉ table) (noNumber : .integer ∉ table)
      {kind : TokenKind} (member : kind ∈ table) (text : String) :
      Token.IsScanned ⟨kind, text, place⟩ := by
    constructor
    · intro isEnd
      exact notEnd (isEnd ▸ member)
    · intro isNumber
      exact absurd (isNumber ▸ member) noNumber
  cases isLexeme with
  | number notEmpty digits =>
      refine ⟨nofun, fun _ => ?_⟩
      rw [String.toList_ofList]
      exact ⟨notEmpty, digits⟩
  | word => exact ofTable (by decide) (by decide) (ofWord_mem _) _
  | @mark spelling kind rest isMark =>
      have isKind : kind ∈ TokenKind.marks.map Prod.snd := List.mem_map_of_mem isMark
      exact ofTable (by decide) (by decide) isKind _

/-- The last token of a text marks its end, and no other token does. -/
theorem Splits.exists_append_finish
    {before text : List Char} {tokens : List Token} (splits : Splits before text tokens) :
    ∃ earlier finish, tokens = earlier ++ [finish] ∧ finish.kind = .finish ∧
      ∀ token ∈ earlier, Token.IsScanned token := by
  induction splits with
  | finish => exact ⟨[], _, rfl, rfl, List.forall_mem_nil _⟩
  | lexeme isGap isLexeme _ inductionHypothesis =>
      obtain ⟨earlier, finish, rfl, isFinish, areScanned⟩ := inductionHypothesis
      have isScanned := isScanned_of_isLexeme isLexeme
      exact ⟨_ :: earlier, finish, rfl, isFinish,
        List.forall_mem_cons.mpr ⟨isScanned _, areScanned⟩⟩

/-! ## Scans -/

/-- A source text splits into tokens exactly if its scan succeeds, which gives just those tokens;
it breaks at a fault exactly if its scan fails, which gives just that fault. -/
theorem scan_iff_splits
    (source : String) :
    (∀ tokens, scan source = .ok tokens ↔ Splits [] source.toList tokens) ∧
      ∀ fault, scan source = .error fault ↔ Breaks [] source.toList fault := by
  constructor
  · intro tokens
    exact ⟨splits_of_scan, scanFrom_of_splits⟩
  · intro fault
    exact ⟨breaks_of_scan, scanFrom_of_breaks⟩

end Scan

end StructLang
