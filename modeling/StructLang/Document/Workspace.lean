import StructLang.Document.Notices

/-!
# Workspaces

A workspace keeps the texts of the documents that are open and, for each URI, what is known about
it since its last text that could be looked at. URIs that differ in percent escapes alone share one
text, but each has its own report. Opening, changing and saving a document publishes the notices
about it; closing it publishes that there are none.
-/

namespace StructLang

/-- The texts of documents by their URIs without percent escapes, and what is known about them by
their URIs. -/
structure Workspace where
  texts : List (String × String)
  reports : List (String × DocumentReport)
  deriving Repr

/-- What an editor tells or asks. A change gives the whole text again, any number of times. -/
inductive WorkspaceEvent
  | opened (uri text : String)
  | changed (uri : String) (texts : List String)
  | saved (uri : String)
  | closed (uri : String)
  | asked (uri : String)
  deriving DecidableEq, Repr

/-- The notices that are published about a document. -/
structure Publication where
  uri : String
  notices : List Notice
  deriving DecidableEq, Repr

/-- What an editor hears back: an outline if it asked for one, and publications. -/
structure WorkspaceAnswer where
  outline? : Option (List OutlineEntry)
  published : List Publication
  deriving DecidableEq, Repr

namespace Workspace

/-- The workspace without documents. -/
def empty : Workspace := ⟨[], []⟩

/-- The value under a key of a table, put in place of an older one. -/
def put {value : Type} (table : List (String × value)) (key : String) (stored : value) :
    List (String × value) :=
  (key, stored) :: table.filter (·.1 != key)

/-- A table without the value under a key. -/
def drop {value : Type} (table : List (String × value)) (key : String) :
    List (String × value) :=
  table.filter (·.1 != key)

/-- The text of a document, if it is open. -/
def text? (workspace : Workspace) (uri : String) : Option String :=
  workspace.texts.lookup (Uri.unescaped uri)

/-- Gives a document a text. -/
def setText (workspace : Workspace) (uri text : String) : Workspace :=
  { workspace with texts := put workspace.texts (Uri.unescaped uri) text }

/-- Forgets a document: its text and what is known about it. -/
def forget (workspace : Workspace) (uri : String) : Workspace :=
  ⟨drop workspace.texts (Uri.unescaped uri), drop workspace.reports uri⟩

/-- The URIs of the documents about which something is known, in alphabetical order. -/
def knownUris (workspace : Workspace) : List String :=
  (workspace.reports.map (·.1)).mergeSort (· ≤ ·)

/-- What is known about a document by the text it has now. -/
def report (workspace : Workspace) (uri : String) : Except DocumentFault DocumentReport := do
  match workspace.text? uri with
  | some text => DocumentReport.ofDocument uri text
  | none => throw (.notOpen (← (Uri.path uri).mapError .uri))

/-- Looks at the text of a document and publishes the notices about it. If nothing can be said, what
was known before stays. -/
def validate (workspace : Workspace) (uri : String) :
    Except DocumentFault WorkspaceAnswer × Workspace :=
  match workspace.report uri with
  | .error fault => (.error fault, workspace)
  | .ok report =>
      (.ok ⟨none, [⟨uri, report.notices⟩]⟩,
        { workspace with reports := put workspace.reports uri report })

/-- The answer to an event, and the workspace after it. -/
def handle (workspace : Workspace) (event : WorkspaceEvent) :
    Except DocumentFault WorkspaceAnswer × Workspace :=
  match event with
  | .opened uri text => (workspace.setText uri text).validate uri
  | .changed uri texts =>
      match texts.getLast? with
      | some text => (workspace.setText uri text).validate uri
      | none => workspace.validate uri
  | .saved uri => workspace.validate uri
  | .closed uri => (.ok ⟨none, [⟨uri, []⟩]⟩, workspace.forget uri)
  | .asked uri =>
      match workspace.reports.lookup uri with
      | none => (.ok ⟨some [], []⟩, workspace)
      | some report =>
          match report.outline with
          | .error fault => (.error fault, workspace)
          | .ok entries => (.ok ⟨some entries, []⟩, workspace)

end Workspace

end StructLang
