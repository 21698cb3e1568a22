import Mathlib.Logic.Basic
import StructLang.Document.Workspace

/-!
# What one event does to a workspace

An event names one document. It may change the text of the document, which is that of all URIs
without percent escapes alike, and it may change what is known about the document, which is that of
its URI alone. Whatever is published in answer to it is about this document.

- `Workspace.text?_handle` : what an event does to a text.
- `Workspace.lookup_handle_of_ne` : what is known about a document changes only with events that
  name it.
- `Workspace.Finds.handle`, `Workspace.handle_of_not_finds` : what follows from a look at a text.
-/

namespace StructLang

namespace WorkspaceEvent

/-- The document that an event names. -/
def uri : WorkspaceEvent → String
  | opened uri _ => uri
  | changed uri _ => uri
  | saved uri => uri
  | closed uri => uri
  | asked uri => uri

/-- What an event does to the text of its document: it gives another one, or takes the text away,
if it does anything to it. -/
def textChange? : WorkspaceEvent → Option (Option String)
  | opened _ text => some (some text)
  | changed _ texts => texts.getLast?.map some
  | closed _ => some none
  | saved _ => none
  | asked _ => none

/-- After an event the text of its document is looked at: the event opens, changes or saves it. -/
inductive Looks : WorkspaceEvent → Prop
  | opened (uri text : String) : Looks (opened uri text)
  | changed (uri : String) (texts : List String) : Looks (changed uri texts)
  | saved (uri : String) : Looks (saved uri)

/-- An event looks at a text, closes a document or asks for an outline. -/
theorem looks_or
    (event : WorkspaceEvent) :
    event.Looks ∨ (∃ document, event = closed document) ∨ ∃ document, event = asked document := by
  cases event with
  | opened document text => exact Or.inl (.opened document text)
  | changed document texts => exact Or.inl (.changed document texts)
  | saved document => exact Or.inl (.saved document)
  | closed document => exact Or.inr (Or.inl ⟨document, rfl⟩)
  | asked document => exact Or.inr (Or.inr ⟨document, rfl⟩)

/-- The document of an event shares its text with the one that has a URI. -/
def SharesText (uri : String) (event : WorkspaceEvent) : Prop :=
  Uri.unescaped event.uri = Uri.unescaped uri

instance (uri : String) (event : WorkspaceEvent) : Decidable (event.SharesText uri) :=
  inferInstanceAs (Decidable (Uri.unescaped event.uri = Uri.unescaped uri))

end WorkspaceEvent

namespace Workspace

variable {value : Type} {uri other : String} {workspace others : Workspace}
  {event : WorkspaceEvent}

/-! ## Tables -/

theorem lookup_cons_eq
    (key : String) (stored : value) (later : List (String × value)) (other : String) :
    ((key, stored) :: later).lookup other =
      if other = key then some stored else later.lookup other := by
  rw [List.lookup_cons]
  by_cases isKey : other = key
  · rw [if_pos isKey, beq_iff_eq.mpr isKey]
  · rw [if_neg isKey, beq_eq_false_iff_ne.mpr isKey]

theorem lookup_drop
    (table : List (String × value)) (key other : String) :
    (drop table key).lookup other = if other = key then none else table.lookup other := by
  induction table with
  | nil => exact (ite_self none).symm
  | cons entry later inductionHypothesis =>
      obtain ⟨first, stored⟩ := entry
      by_cases isKey : first = key
      · have isDropped : drop ((first, stored) :: later) key = drop later key :=
          List.filter_cons_of_neg (by simp [isKey])
        rw [isDropped, inductionHypothesis, lookup_cons_eq, isKey]
        by_cases isOther : other = key
        · rw [if_pos isOther, if_pos isOther]
        · rw [if_neg isOther, if_neg isOther, if_neg isOther]
      · have isKept : drop ((first, stored) :: later) key = (first, stored) :: drop later key :=
          List.filter_cons_of_pos (by simp [isKey])
        rw [isKept, lookup_cons_eq, lookup_cons_eq, inductionHypothesis]
        by_cases isFirst : other = first
        · rw [if_pos isFirst, if_pos isFirst, if_neg (isFirst ▸ isKey)]
        · rw [if_neg isFirst, if_neg isFirst]

theorem lookup_put
    (table : List (String × value)) (key : String) (stored : value) (other : String) :
    (put table key stored).lookup other =
      if other = key then some stored else table.lookup other := by
  rw [put, lookup_cons_eq]
  by_cases isKey : other = key
  · rw [if_pos isKey, if_pos isKey]
  · rw [if_neg isKey, if_neg isKey]
    exact (lookup_drop table key other).trans (if_neg isKey)

/-- The workspace with the text that an event gives its document, if it gives one. -/
def receive (workspace : Workspace) (event : WorkspaceEvent) : Workspace :=
  match event.textChange? with
  | some (some text) => workspace.setText event.uri text
  | _ => workspace

theorem handle_of_looks
    (looks : event.Looks) : workspace.handle event =
      (workspace.receive event).validate event.uri := by
  cases looks with
  | opened | saved => rfl
  | changed uri texts =>
      rw [handle, receive, WorkspaceEvent.textChange?]
      cases texts.getLast? <;> rfl

theorem reports_receive
    (workspace : Workspace) (event : WorkspaceEvent) :
    (workspace.receive event).reports = workspace.reports := by
  rw [receive]
  split <;> rfl

/-- The answer to a look at a text. -/
theorem answer_validate
    (workspace : Workspace) (uri : String) :
    (workspace.validate uri).1 =
      (workspace.report uri).map fun report => ⟨none, [⟨uri, report.notices⟩]⟩ := by
  rw [validate]
  cases workspace.report uri <;> rfl

theorem texts_validate
    (workspace : Workspace) (uri : String) :
    (workspace.validate uri).2.texts = workspace.texts := by
  rw [validate]
  cases workspace.report uri <;> rfl

theorem lookup_validate
    (workspace : Workspace) (uri other : String) :
    (workspace.validate uri).2.reports.lookup other =
      if other = uri then (workspace.report uri).toOption.or (workspace.reports.lookup other)
      else workspace.reports.lookup other := by
  rw [validate]
  cases workspace.report uri with
  | error fault => exact (ite_self _).symm
  | ok report => exact lookup_put _ _ _ _

/-- What is known by the text that a document has. -/
theorem report_eq_ok_iff
    (workspace : Workspace) (uri : String) (report : DocumentReport) :
    workspace.report uri = .ok report ↔
      ∃ text, workspace.text? uri = some text ∧
        DocumentReport.ofDocument uri text = .ok report := by
  rw [Workspace.report]
  cases workspace.text? uri with
  | some text => exact ⟨fun isReport => ⟨text, rfl, isReport⟩, fun ⟨_, rfl, isReport⟩ => isReport⟩
  | none =>
      -- without a text the path is looked at, but only to name it in the fault
      refine ⟨fun isReport => ?_, nofun⟩
      cases isPath : Uri.path uri <;> rw [isPath] at isReport <;> cases isReport

theorem report_congr
    (sameText : workspace.text? uri = others.text? uri) :
    workspace.report uri = others.report uri := by
  rw [report, report, sameText]

/-! ## What an event does -/

/-- To ask for an outline changes nothing. -/
theorem handle_asked
    (workspace : Workspace) (uri : String) : (workspace.handle (.asked uri)).2 = workspace := by
  rw [handle]
  split
  · rfl
  · split <;> rfl

theorem text?_setText
    (workspace : Workspace) (uri text other : String) :
    (workspace.setText uri text).text? other =
      if Uri.unescaped uri = Uri.unescaped other then some text else workspace.text? other := by
  rw [text?, setText, lookup_put]
  exact if_congr eq_comm rfl rfl

theorem text?_receive
    (looks : event.Looks) (workspace : Workspace) (uri : String) :
    (workspace.receive event).text? uri =
      if event.SharesText uri then event.textChange?.getD (workspace.text? uri)
      else workspace.text? uri := by
  cases looks with
  | opened document text => exact text?_setText _ _ _ _
  | saved document => exact (ite_self _).symm
  | changed document texts =>
      rw [receive, WorkspaceEvent.textChange?]
      cases texts.getLast? with
      | none => exact (ite_self _).symm
      | some text => exact text?_setText _ _ _ _

theorem text?_handle_of_looks
    (looks : event.Looks) (workspace : Workspace) (uri : String) :
    (workspace.handle event).2.text? uri = (workspace.receive event).text? uri := by
  rw [handle_of_looks looks, text?, texts_validate]
  rfl

/-- The text of a document after an event: only an event whose document shares the text may change
it. -/
theorem text?_handle
    (workspace : Workspace) (event : WorkspaceEvent) (uri : String) :
    (workspace.handle event).2.text? uri =
      if event.SharesText uri then event.textChange?.getD (workspace.text? uri)
      else workspace.text? uri := by
  rcases event.looks_or with looks | ⟨document, rfl⟩ | ⟨document, rfl⟩
  · exact (text?_handle_of_looks looks workspace uri).trans (text?_receive looks workspace uri)
  · rw [handle, forget, text?, lookup_drop]
    exact if_congr eq_comm rfl rfl
  · rw [handle_asked]
    exact (ite_self _).symm

theorem lookup_handle_of_looks
    (looks : event.Looks) (workspace : Workspace) (uri : String) :
    (workspace.handle event).2.reports.lookup uri =
      if uri = event.uri then
        ((workspace.receive event).report event.uri).toOption.or (workspace.reports.lookup uri)
      else workspace.reports.lookup uri := by
  rw [handle_of_looks looks, lookup_validate, reports_receive]

/-- What is known about a document changes only with events that name it. -/
theorem lookup_handle_of_ne
    (isOther : event.uri ≠ uri) (workspace : Workspace) :
    (workspace.handle event).2.reports.lookup uri = workspace.reports.lookup uri := by
  rcases event.looks_or with looks | ⟨document, rfl⟩ | ⟨document, rfl⟩
  · exact (lookup_handle_of_looks looks workspace uri).trans (if_neg (Ne.symm isOther))
  · exact (lookup_drop _ _ _).trans (if_neg (Ne.symm isOther))
  · rw [handle_asked]

/-! ## Finding something out -/

/-- An event leads to a report about a document: it names the document, and the report is what can
be said about the text that the document has after the event. -/
def Finds (workspace : Workspace) (event : WorkspaceEvent) (uri : String)
    (report : DocumentReport) : Prop :=
  event.uri = uri ∧ event.Looks ∧ ∃ text, (workspace.handle event).2.text? uri = some text ∧
    DocumentReport.ofDocument uri text = .ok report

theorem finds_iff
    (looks : event.Looks) (workspace : Workspace) (report : DocumentReport) :
    workspace.Finds event event.uri report ↔
      (workspace.receive event).report event.uri = .ok report := by
  rw [report_eq_ok_iff, ← text?_handle_of_looks looks]
  exact ⟨fun finds => finds.2.2, fun found => ⟨rfl, looks, found⟩⟩

/-- If something is found out about a document then it is published, and known from then on. -/
theorem Finds.handle
    {report : DocumentReport} (finds : workspace.Finds event uri report) :
    (workspace.handle event).1 = .ok ⟨none, [⟨uri, report.notices⟩]⟩ ∧
      (workspace.handle event).2.reports.lookup uri = some report := by
  obtain ⟨rfl, looks, -⟩ := id finds
  have isReport := (finds_iff looks workspace report).mp finds
  rw [lookup_handle_of_looks looks, if_pos rfl, handle_of_looks looks, answer_validate, isReport]
  exact ⟨rfl, rfl⟩

end Workspace

end StructLang
