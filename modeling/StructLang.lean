import StructLang.Alphabet.Blank
import StructLang.Alphabet.Digit
import StructLang.Alphabet.Letter
import StructLang.Alphabet.Printable
import StructLang.Alphabet.Ranges
import StructLang.Alphabet.Word
import StructLang.Check.Rules
import StructLang.Check.State
import StructLang.Command.Folder
import StructLang.Command.Options
import StructLang.Command.Run
import StructLang.Containment
import StructLang.Cursor.Run
import StructLang.Diagnostic
import StructLang.Document.Authority
import StructLang.Document.Braces
import StructLang.Document.Notices
import StructLang.Document.Outline
import StructLang.Document.Range
import StructLang.Document.Uri
import StructLang.Document.Workspace
import StructLang.Expr.Basic
import StructLang.Expr.Check
import StructLang.Expr.Operator
import StructLang.Expr.Read
import StructLang.Layout.OfProgram
import StructLang.Layout.Shape
import StructLang.Main
import StructLang.Position
import StructLang.Program.Basic
import StructLang.Program.Check
import StructLang.Program.Findings
import StructLang.Program.OfSource
import StructLang.Program.Read
import StructLang.Program.Session
import StructLang.Proofs.Absorption
import StructLang.Proofs.Acceptance
import StructLang.Proofs.Agreement
import StructLang.Proofs.Ancestors
import StructLang.Proofs.BoundAccessors
import StructLang.Proofs.BoundedReading
import StructLang.Proofs.Check.Hidden
import StructLang.Proofs.Check.Tables
import StructLang.Proofs.Check.Trace
import StructLang.Proofs.ClosingBraces
import StructLang.Proofs.Consistency
import StructLang.Proofs.CyclicStructs
import StructLang.Proofs.DeclarationOrder
import StructLang.Proofs.Discipline
import StructLang.Proofs.Enclosure
import StructLang.Proofs.FirstDeclarations
import StructLang.Proofs.FirstEnd
import StructLang.Proofs.FromSource
import StructLang.Proofs.Grammar.Programs
import StructLang.Proofs.LostResults
import StructLang.Proofs.NestedOutlines
import StructLang.Proofs.OpenDocuments
import StructLang.Proofs.PrintedGrammar
import StructLang.Proofs.Reformatting
import StructLang.Proofs.Renaming
import StructLang.Proofs.Reports
import StructLang.Proofs.Resolution
import StructLang.Proofs.Scope.Entries
import StructLang.Proofs.Seclusion
import StructLang.Proofs.SelectedNames
import StructLang.Proofs.ShownMessages
import StructLang.Proofs.Token.LinesBelow
import StructLang.Proofs.TypeTexts
import StructLang.Proofs.TypedNodes
import StructLang.Reader.Basic
import StructLang.Reader.Fault
import StructLang.Scope.Basic
import StructLang.Scope.Store
import StructLang.Stmt.Basic
import StructLang.Stmt.Check
import StructLang.Stmt.Read
import StructLang.Text.Excerpt
import StructLang.Text.Lines
import StructLang.Text.Marked
import StructLang.Text.Numeral
import StructLang.Text.Parts
import StructLang.Text.Quoted
import StructLang.Text.Utf8
import StructLang.Token.Basic
import StructLang.Token.Scan
import StructLang.Token.Trie
import StructLang.Tree.Node
import StructLang.Ty.Basic
import StructLang.Ty.Read
