import StructLang.Proofs.Remarks
import StructLang.Text.Marked

/-!
# Messages as they were raised

A fault is raised with a message that is marked with the place of the fault. What is shown is the
message alone, and the place beside it. The message may hold anything that looks like such a mark,
also at its end, where it runs into the mark: the last place in a text is the one that was put
there last, since the numbers behind it have no space between them.

- `Text.withoutPlace_mark` : without its place a message is what it was.
- `Refused` : a text is refused with a message about a place.
- `message_shown_as_raised` : the command and the notices about a document show that message.
-/

namespace StructLang

/-! ## Messages without their places -/

namespace Text

theorem beforeLast?_append
    {mark tail before : List Char} (found : beforeLast? mark tail = some before)
    (text : List Char) : beforeLast? mark (text ++ tail) = some (text ++ before) := by
  induction text with
  | nil => exact found
  | cons character rest inductionHypothesis =>
      rw [List.cons_append, beforeLast?, inductionHypothesis]
      rfl

theorem beforeLast?_cons_eq_none
    {character : Char} {rest : List Char} (notHere : ¬ placeMark <+: character :: rest)
    (notLater : beforeLast? placeMark rest = none) :
    beforeLast? placeMark (character :: rest) = none := by
  rw [beforeLast?, notLater]
  exact if_neg (mt List.isPrefixOf_iff_prefix.mp notHere)

theorem placeMark_notHere
    {character : Char} (notSpace : character ≠ ' ') (rest : List Char) :
    ¬ placeMark <+: character :: rest := fun isHere =>
  notSpace (List.cons_prefix_cons.mp isHere).1.symm

/-- There is no place in a text without spaces. -/
theorem beforeLast?_eq_none
    {text : List Char} (noSpace : ' ' ∉ text) : beforeLast? placeMark text = none := by
  induction text with
  | nil => rfl
  | cons character rest inductionHypothesis =>
      obtain ⟨notSpace, noSpaceLater⟩ := not_or.mp (mt List.mem_cons.mpr noSpace)
      exact beforeLast?_cons_eq_none (placeMark_notHere (Ne.symm notSpace) rest)
        (inductionHypothesis noSpaceLater)

/-- Before a text without spaces, a mark is the last one. -/
theorem beforeLast?_placeMark
    {text : List Char} (noSpace : ' ' ∉ text) :
    beforeLast? placeMark (placeMark ++ text) = some [] := by
  have notHere : ¬ placeMark <+: ' ' :: text := fun isHere =>
    noSpace ((List.cons_prefix_cons.mp isHere).2.subset (by decide))
  have noneLater : beforeLast? placeMark ('a' :: 't' :: ' ' :: text) = none :=
    beforeLast?_cons_eq_none (placeMark_notHere (by decide) _)
      (beforeLast?_cons_eq_none (placeMark_notHere (by decide) _)
        (beforeLast?_cons_eq_none notHere (beforeLast?_eq_none noSpace)))
  change beforeLast? placeMark (' ' :: 'a' :: 't' :: ' ' :: text) = _
  rw [beforeLast?, noneLater]
  exact if_pos (List.isPrefixOf_iff_prefix.mpr (List.prefix_append placeMark text))

theorem space_notMem_toString
    (number : Int) : ' ' ∉ (toString number).toList := by
  have noSpace (count : Nat) : ' ' ∉ count.repr.toList := by
    rw [Nat.toList_repr]
    exact fun isThere =>
      absurd (Nat.isDigit_of_mem_toDigits (by decide) (by decide) isThere) (by decide)
  cases number with
  | ofNat count => exact noSpace count
  | negSucc count =>
      change ' ' ∉ ("-" ++ (count + 1).repr).toList
      rw [String.toList_append]
      exact fun isThere => (List.mem_append.mp isThere).elim (by decide) (noSpace _)

/-- Taking the place away from a message that was marked with one gives the message back. -/
theorem withoutPlace_mark
    (position : Position) (message : String) : withoutPlace (position.mark message) = message := by
  have noSpace :
      ' ' ∉ (toString position.line).toList ++ ':' :: (toString position.column).toList := by
    rw [List.mem_append, List.mem_cons]
    rintro (inLine | isColon | inColumn)
    · exact space_notMem_toString position.line inLine
    · exact absurd isColon (by decide)
    · exact space_notMem_toString position.column inColumn
  have isMarked : (position.mark message).toList = message.toList ++ (placeMark ++
      ((toString position.line).toList ++ ':' :: (toString position.column).toList)) := by
    rw [Position.mark]
    simp only [String.toList_append, List.append_assoc]
    rfl
  have isFound := beforeLast?_append (beforeLast?_placeMark noSpace) message.toList
  rw [← isMarked, List.append_nil] at isFound
  rw [withoutPlace, isFound]
  exact String.ofList_toList

end Text

/-! ## What is shown -/

/-- A source text is refused with a message about a place: it does not split into tokens, or its
tokens are no program. -/
inductive Refused (source : String) : Position → String → Prop
  | lexical {fault : LexFault} :
      scan source = .error fault → Refused source fault.position fault.message
  | grammar {tokens : List Token} {fault : ReadFault} :
      scan source = .ok tokens → Program.ofTokens tokens = .error (.grammar fault) →
      Refused source fault.position fault.message

namespace Refused

variable {source message : String} {position : Position}

/-- The command shows the message, unless it shows the tokens of the text instead. -/
theorem runOnSource_eq
    (refused : Refused source position message) {options : Command.Options}
    (showsNoTokens : ∀ tokens, scan source = .ok tokens → options.emitTokens = false) :
    Command.runOnSource options source =
      .ok (Command.refusal source (Command.baseName options.file) message position) := by
  cases refused with
  | lexical failed => exact Command.runOnSource_of_lexFault failed
  | grammar scanned isRefused =>
      apply Command.runOnSource_of_readFault _ scanned isRefused
      rw [showsNoTokens _ scanned]
      exact Bool.false_ne_true

/-- A report about the text has one notice, which shows the message. -/
theorem exists_report
    (refused : Refused source position message) :
    ∃ report, DocumentReport.ofSource source = .ok report ∧
      report.notices = [.atCharacter position message] := by
  cases refused with
  | lexical failed =>
      rw [DocumentReport.ofSource, failed]
      exact ⟨_, rfl, rfl⟩
  | grammar scanned isRefused =>
      rw [DocumentReport.ofSource, scanned]
      dsimp only
      rw [isRefused]
      exact ⟨_, rfl, rfl⟩

end Refused

/-- Whatever a message is, and whatever the place it was marked with, it is had back without the
place. So the command and the report about a document show the message that a refused text was
refused with. -/
theorem message_shown_as_raised :
    (∀ (position : Position) (message : String),
      Text.withoutPlace (position.mark message) = message) ∧
    ∀ source position message, Refused source position message →
      (∀ options : Command.Options,
        (∀ tokens, scan source = .ok tokens → options.emitTokens = false) →
          Command.runOnSource options source =
            .ok (Command.refusal source (Command.baseName options.file)
              (Text.withoutPlace (position.mark message)) position)) ∧
      ∃ report, DocumentReport.ofSource source = .ok report ∧
        report.notices = [.atCharacter position (Text.withoutPlace (position.mark message))] := by
  refine ⟨Text.withoutPlace_mark, ?_⟩
  intro source position message refused
  rw [Text.withoutPlace_mark]
  constructor
  · intro options showsNoTokens
    exact refused.runOnSource_eq showsNoTokens
  · exact refused.exists_report

-- The message ends in a part of the mark and holds a place of its own.
example : Text.withoutPlace (Position.mark ⟨-2, 3⟩ "x at 1:2 at") = "x at 1:2 at" := by
  decide +kernel

end StructLang
