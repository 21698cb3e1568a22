import StructLang.Diagnostic

/-!
# Messages

The message of a diagnostic refers to its names by number, so it can be rendered just if the
diagnostic has a name for each reference. How many names that takes is a matter of the kind alone:
one beyond the greatest number that the template of the kind refers to.
-/

namespace StructLang

/-- How many names there must be for a piece of a message to find the one it refers to. -/
def MessagePart.nameCount : MessagePart → Nat
  | text _ => 0
  | name index => index + 1

/-- How many names the message of a kind needs. -/
@[simp] def DiagnosticKind.nameCount : DiagnosticKind → Nat
  | structMemberNotFound => 2
  | conditionNotBool | unsupportedDisplay | indexNotInt | indexOnNonList | memberOnNonStruct
  | sizeOfNonList | appendToNonList | elementMismatch | callOnNonFunction
  | argumentMismatch => 0
  | _ => 1

theorem DiagnosticKind.nameCount_template
    (kind : DiagnosticKind) :
    (kind.template.map MessagePart.nameCount).foldr max 0 = kind.nameCount := by
  cases kind <;> rfl

theorem MessagePart.fill_isOk_iff
    (names : List String) (part : MessagePart) :
    (∃ filled, part.fill names = .ok filled) ↔ part.nameCount ≤ names.length := by
  cases part with
  | text fixed => simp [fill, nameCount]
  | name index =>
      by_cases isThere : index < names.length
      · simp [fill, nameCount, isThere, Nat.succ_le_of_lt isThere]
      · simp [fill, nameCount, isThere, Nat.lt_succ_of_le (Nat.le_of_not_lt isThere)]

/-- Several pieces find their names just if each of them does. -/
theorem MessagePart.mapM_fill_isOk_iff
    (names : List String) (parts : List MessagePart) :
    (∃ filled, parts.mapM (fill names) = .ok filled) ↔
      (parts.map nameCount).foldr max 0 ≤ names.length := by
  induction parts with
  | nil =>
      have filledNone : [].mapM (fill names) = .ok [] := rfl
      simp [filledNone]
  | cons head tail inductionHypothesis =>
      rw [List.map_cons, List.foldr_cons, Nat.max_le, ← inductionHypothesis,
        ← fill_isOk_iff names head, List.mapM_cons]
      cases filledHead : head.fill names with
      | error missing => simp [bind, Except.bind]
      | ok first =>
          cases tail.mapM (fill names) with
          | error missing => simp [bind, Except.bind]
          | ok others => simp [bind, Except.bind, pure, Except.pure]

/-- A diagnostic can be rendered just if it has all the names that its message needs. -/
theorem Diagnostic.message_isOk_iff
    (diagnostic : Diagnostic) :
    (∃ text, diagnostic.message = .ok text) ↔
      diagnostic.kind.nameCount ≤ diagnostic.names.length := by
  rw [← DiagnosticKind.nameCount_template, ← MessagePart.mapM_fill_isOk_iff]
  have isMessage : diagnostic.message =
      (diagnostic.kind.template.mapM (MessagePart.fill diagnostic.names)).map String.join := rfl
  rw [isMessage]
  cases diagnostic.kind.template.mapM (MessagePart.fill diagnostic.names) with
  | error missing => simp [Except.map]
  | ok pieces => simp [Except.map]

end StructLang
