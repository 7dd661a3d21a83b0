import StyleLens.Document
import StyleLens.Index

/-!
# The open documents of a session

Documents by their URI. Each call names one document and leaves the others as
they are: opening puts a parsed document there, also over one that is open;
changing and closing do nothing where none is.
-/

namespace StyleLens

/-- The open documents, by URI. -/
structure Workspace where
  documents : Index String Document

namespace Workspace

/-- No open documents. -/
def empty : Workspace := ⟨.empty⟩

/-- The number of open documents. -/
def size (w : Workspace) : Nat := w.documents.size

/-- The open document with a URI. -/
def get? (w : Workspace) (uri : String) : Option Document := w.documents.get? uri

/-- Open a document with the text of a file in the language of an id. -/
def load (parse : Parser) (w : Workspace) (uri languageId content : String)
    (version : Int) : Workspace × List LogRecord :=
  let parsed := (Document.create uri (.ofLanguageId languageId) content version).parseFirst parse
  (⟨w.documents.insert uri parsed.1⟩, parsed.2)

/-- Change an open document. -/
def edit (parse : Parser) (w : Workspace) (uri : String) (changes : List Change)
    (version : Int) : Workspace × List LogRecord :=
  match w.get? uri with
  | some d =>
    let updated := d.update parse changes version
    (⟨w.documents.insert uri updated.1⟩, updated.2)
  | none => (w, [.warn ("Change for a document that is not open: " ++ uri)])

/-- Close a document. -/
def drop (w : Workspace) (uri : String) : Workspace := ⟨w.documents.erase uri⟩

end Workspace

end StyleLens
