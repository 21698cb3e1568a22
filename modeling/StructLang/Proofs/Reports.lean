import Mathlib.Data.List.Forall2
import StructLang.Document.Notices
import StructLang.Proofs.Completion
import StructLang.Proofs.Numerals
import StructLang.Proofs.Token.Splits

/-!
# Reports about documents

Whatever the text of a document is, a report about it says how far the text could be read and holds
a notice for each thing that is wrong, as long as each number of the text has a value. A run of
digits that are not all decimal, or of too many digits, is a number of the text without a value;
such a text gets no report.

- `ofDocument_isOk_of_decimals` : texts whose numbers are decimal and not too long get a report.
- `ofDocument_superscript` : a text that displays a superscript digit gets none.
-/

namespace StructLang

/-! ## The tokens of a text -/

/-- The text of a number has decimal digits only, and not too many. -/
def Token.IsDecimal (token : Token) : Prop :=
  (∀ character ∈ token.text.toList, (Alphabet.decimalValue? character).isSome) ∧
    token.text.toList.length ≤ Text.greatestDigitCount

/-- Tokens of a text are read as a program or refused by the grammar, if its numbers are decimal
and not too long. -/
theorem Program.ofTokens_of_decimals
    {source : String} {tokens : List Token} (scanned : scan source = .ok tokens)
    (decimals : ∀ token ∈ tokens, token.kind = .integer → token.IsDecimal) :
    (∃ program, Program.ofTokens tokens = .ok program) ∨
      ∃ fault, Program.ofTokens tokens = .error (.grammar fault) := by
  obtain ⟨earlier, finish, rfl, isFinish, areScanned⟩ :=
    (Scan.splits_of_scan scanned).exists_append_finish
  have noFinish : ∀ token ∈ earlier, token.kind ≠ .finish := fun token member =>
    (areScanned token member).1
  rw [Grammar.ofTokens_append_finish noFinish isFinish]
  have sound := Grammar.sound_read finish earlier
  cases result : Program.read finish earlier with
  | ok program => exact Or.inl ⟨program, rfl⟩
  | error failure =>
      rw [result] at sound
      rcases sound with ⟨fault, rfl⟩ | ⟨token, member, isInteger, fault, lacking⟩
      · exact Or.inr ⟨fault, rfl⟩
      · obtain ⟨notEmpty, digits⟩ := (areScanned token member).2 isInteger
        have decimal := decimals token (List.mem_append_left _ member) isInteger
        obtain ⟨value, hasValue⟩ := (Text.readNumeral_isOk_iff notEmpty digits).mpr decimal
        rw [lacking] at hasValue
        cases hasValue

/-! ## What a report says -/

namespace DocumentReport

/-- A report says how far a text could be read, and has a notice for each thing that is wrong. -/
inductive Explains (source : String) (report : DocumentReport) : Prop
  | scan (fault : LexFault) :
      scan source = .error fault →
      report.tokens? = none →
      report.notices = [.atCharacter fault.position fault.message] →
      Explains source report
  | grammar (tokens : List Token) (fault : ReadFault) :
      scan source = .ok tokens →
      Program.ofTokens tokens = .error (.grammar fault) →
      report.program? = none →
      report.notices = [.atCharacter fault.position fault.message] →
      Explains source report
  | check (program : Program) (state : CheckState) :
      Program.ofSource source = .ok program →
      program.checked = .ok () state →
      report.findings? = some state →
      List.Forall₂
        (fun diagnostic notice => ∃ text, diagnostic.message = .ok text ∧
          notice = .overLine (Text.lines source) diagnostic.line text diagnostic.kind.name)
        state.diagnostics report.notices →
      Explains source report

/-- A step that succeeds on each of some things succeeds on all of them. -/
theorem exists_mapM_ok
    {alpha beta fault : Type} {step : alpha → Except fault beta} {isSo : alpha → beta → Prop}
    {items : List alpha} (each : ∀ item ∈ items, ∃ found, step item = .ok found ∧ isSo item found) :
    ∃ found, items.mapM step = .ok found ∧ List.Forall₂ isSo items found := by
  induction items with
  | nil => exact ⟨[], rfl, .nil⟩
  | cons head tail inductionHypothesis =>
      obtain ⟨⟨first, isFirst, firstSo⟩, eachLater⟩ := List.forall_mem_cons.mp each
      obtain ⟨others, areOthers, othersSo⟩ := inductionHypothesis eachLater
      refine ⟨first :: others, ?_, .cons firstSo othersSo⟩
      simp [List.mapM_cons, isFirst, areOthers, bind, Except.bind, pure, Except.pure]

theorem exists_notices
    (lines : List String) {diagnostics : List Diagnostic}
    (messages : ∀ diagnostic ∈ diagnostics, ∃ text, diagnostic.message = .ok text) :
    ∃ notices, diagnostics.mapM (noticeOf lines) = .ok notices ∧
      List.Forall₂
        (fun diagnostic notice => ∃ text, diagnostic.message = .ok text ∧
          notice = Notice.overLine lines diagnostic.line text diagnostic.kind.name)
        diagnostics notices := by
  apply exists_mapM_ok
  intro diagnostic member
  obtain ⟨text, isText⟩ := messages diagnostic member
  refine ⟨.overLine lines diagnostic.line text diagnostic.kind.name, ?_, text, isText, rfl⟩
  simp [noticeOf, isText, Except.mapError, bind, Except.bind, pure, Except.pure]

theorem ofSource_isOk_of_decimals
    {source : String}
    (decimals : ∀ tokens, StructLang.scan source = .ok tokens →
      ∀ token ∈ tokens, token.kind = .integer → token.IsDecimal) :
    ∃ report, ofSource source = .ok report ∧ Explains source report := by
  rw [ofSource]
  cases scanned : StructLang.scan source with
  | error fault => exact ⟨_, rfl, .scan fault scanned rfl rfl⟩
  | ok tokens =>
      dsimp only
      rcases Program.ofTokens_of_decimals scanned (decimals tokens scanned) with
        ⟨program, isProgram⟩ | ⟨fault, isFault⟩
      · have isRead : Program.ofSource source = .ok program := by
          rw [Program.ofSource, scanned]
          change (Program.ofTokens tokens).mapError _ = _
          rw [isProgram]
          rfl
        obtain ⟨state, isChecked⟩ :=
          Program.checked_of_written (Program.written_of_ofSource isRead)
        have outcome := Program.outcome_of_checked isChecked
        obtain ⟨notices, areNotices, eachIsSo⟩ := exists_notices
          (Text.lines source) fun diagnostic member => outcome.message_isOk member
        rw [isProgram]
        dsimp only
        rw [isChecked]
        dsimp only
        rw [areNotices]
        exact ⟨_, rfl, .check program state isRead isChecked rfl eachIsSo⟩
      · rw [isFault]
        exact ⟨_, rfl, .grammar tokens fault scanned isFault rfl rfl⟩

/-- A document whose numbers have decimal digits only, and not too many, gets a report that
explains how far its text could be read. -/
theorem ofDocument_isOk_of_decimals
    {uri path source : String} (accepted : Uri.path uri = .ok path)
    (decimals : ∀ tokens, StructLang.scan source = .ok tokens →
      ∀ token ∈ tokens, token.kind = .integer → token.IsDecimal) :
    ∃ report, ofDocument uri source = .ok report ∧ Explains source report := by
  rw [ofDocument, accepted]
  exact ofSource_isOk_of_decimals decimals

/-- The tokens of a main body that displays a number of one digit. -/
def displayedTokens (digit : Char) : List Token :=
  [⟨.mainWord, "main", ⟨1, 1⟩⟩, ⟨.leftBrace, "\x7b", ⟨1, 5⟩⟩, ⟨.displayWord, "display", ⟨1, 6⟩⟩,
    ⟨.leftParen, "(", ⟨1, 13⟩⟩, ⟨.integer, String.ofList [digit], ⟨1, 14⟩⟩,
    ⟨.rightParen, ")", ⟨1, 15⟩⟩, ⟨.semicolon, ";", ⟨1, 16⟩⟩, ⟨.rightBrace, "\x7d", ⟨1, 17⟩⟩,
    ⟨.finish, "", ⟨1, 18⟩⟩]

theorem scan_displayed
    {digit : Char} (isOneOf : digit = '7' ∨ digit = '\xb2') :
    StructLang.scan (String.ofList ("main\x7bdisplay(".toList ++ digit :: ");\x7d".toList)) =
      .ok (displayedTokens digit) := by
  refine Scan.scan_of_scansTo rfl ?_
  rcases isOneOf with rfl | rfl
  · decide +kernel
  · decide +kernel

theorem ofDocument_isOk_seven :
    Uri.path "file:///prog.sx" = .ok "/prog.sx" ∧
      (∀ tokens, StructLang.scan "main\x7bdisplay(7);\x7d" = .ok tokens →
        ∀ token ∈ tokens, token.kind = .integer → token.IsDecimal) ∧
      ∃ report, ofDocument "file:///prog.sx" "main\x7bdisplay(7);\x7d" = .ok report ∧
        Explains "main\x7bdisplay(7);\x7d" report := by
  have accepted : Uri.path "file:///prog.sx" = .ok "/prog.sx" := by decide +kernel
  have decimals : ∀ tokens, StructLang.scan "main\x7bdisplay(7);\x7d" = .ok tokens →
      ∀ token ∈ tokens, token.kind = .integer → token.IsDecimal := by
    intro tokens scanned
    rw [show "main\x7bdisplay(7);\x7d" =
      String.ofList ("main\x7bdisplay(".toList ++ '7' :: ");\x7d".toList) from rfl,
      scan_displayed (Or.inl rfl)] at scanned
    obtain rfl := Except.ok.inj scanned
    have isDecimal : (Alphabet.decimalValue? '7').isSome ∧ 1 ≤ Text.greatestDigitCount := by decide
    simpa [displayedTokens, Token.IsDecimal] using isDecimal
  exact ⟨accepted, decimals, ofDocument_isOk_of_decimals accepted decimals⟩

/-- A superscript digit is a number of a text, but it has no value, and there is no report about a
document that displays it. -/
theorem ofDocument_superscript :
    ofDocument "file:///prog.sx" "main\x7bdisplay(\xb2);\x7d" =
      .error (.numeral (.malformed "\xb2")) := by
  have accepted : Uri.path "file:///prog.sx" = .ok "/prog.sx" := by decide +kernel
  have refused : Program.ofTokens (displayedTokens '\xb2') =
      .error (.numeral (.malformed "\xb2")) := by cbv
  rw [ofDocument, accepted]
  change ofSource (String.ofList ("main\x7bdisplay(".toList ++ '\xb2' :: ");\x7d".toList)) = _
  rw [ofSource, scan_displayed (Or.inr rfl)]
  dsimp only
  rw [refused]

end DocumentReport

end StructLang
