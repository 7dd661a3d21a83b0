import StyleLens.CommandLine
import StyleLens.Docs.Builtin
import StyleLens.Docs.Lookup
import StyleLens.Hover.Basic
import StyleLens.Json.Printer
import StyleLens.Json.Reader
import StyleLens.Log
import StyleLens.Main
import StyleLens.Nesting
import StyleLens.Proofs.Docs.Layers
import StyleLens.Proofs.Docs.Naming
import StyleLens.Proofs.Document.BottomUp
import StyleLens.Proofs.Document.Splice
import StyleLens.Proofs.Document.Undo
import StyleLens.Proofs.Hover
import StyleLens.Proofs.Hover.PlainText
import StyleLens.Proofs.Hover.Sections
import StyleLens.Proofs.Markdown.Marks
import StyleLens.Proofs.Nesting
import StyleLens.Proofs.Preview.Arena
import StyleLens.Proofs.Preview.Element
import StyleLens.Proofs.Preview.Levels
import StyleLens.Proofs.Preview.Relation
import StyleLens.Proofs.Selector.Exactness
import StyleLens.Proofs.Selector.Monotone
import StyleLens.Proofs.Selector.Namespace
import StyleLens.Proofs.Selector.Reading
import StyleLens.Proofs.Specificity.Limit
import StyleLens.Proofs.Subject.Loose
import StyleLens.Proofs.Subject.SingleColon
import StyleLens.Proofs.Text.Column
import StyleLens.Proofs.Text.RoundTrip
import StyleLens.Proofs.Workspace
import StyleLens.Session.Basic
import StyleLens.Subject
import StyleLens.Text.Position
import StyleLens.Tree.Cursor
import StyleLens.Workspace
