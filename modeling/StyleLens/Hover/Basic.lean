import StyleLens.Docs.Builtin
import StyleLens.Docs.Lookup
import StyleLens.Document
import StyleLens.Hover.Content
import StyleLens.Subject
import StyleLens.Tree.Cursor

/-!
# Hovers

What to show when a cursor rests on a place in a stylesheet: the content about
the construct under it, and the range of that construct. There is a hover
wherever there is a node; a construct without documentation has an empty one.
-/

namespace StyleLens

/-- What is shown, and the range that it is about. -/
structure Hover where
  content : Content
  range : Range
  deriving DecidableEq

/-- What answers a hover: documentation, and how to show it. -/
structure Guide where
  dataset : Dataset
  presentation : Presentation

namespace Guide

/-- The builtin documentation, all of it, for a client that renders markdown. -/
def default : Guide := ⟨.builtin, ⟨true, .all⟩⟩

/-- The documentation of a subject. -/
def document (g : Guide) (source : String) (subject : Subject) : Content :=
  let entry := do
    let topic ← subject.topic?
    let name ← subject.name? source
    let entry ← g.dataset.lookUp? topic name
    pure (topic, entry)
  match entry with
  | some (topic, entry) => .ofEntry topic g.presentation entry
  | none => .nothing

/-- The content about a subject. -/
def explain (g : Guide) (source : String) (dialect : Dialect) (subject : Subject) : Content :=
  match subject with
  | .selector item => .ofReport g.presentation (.ofSelector source dialect item)
  | _ => g.document source subject

/-- The hover at a byte of a stylesheet. -/
def hoverAtByte? (g : Guide) (source : String) (tree : Tree) (dialect : Dialect) (b : Nat) :
    Option Hover :=
  (Focus.under? (.root tree) b).map fun node =>
    let subject := Subject.ofFocus source node
    let label := subject.focus.label
    ⟨g.explain source dialect subject, Text.rangeOfBytes source label.start label.stop⟩

/-- The hover at a UTF-16 offset of a stylesheet. -/
def hoverAtOffset? (g : Guide) (source : String) (tree : Tree) (dialect : Dialect) (o : Nat) :
    Option Hover :=
  (Text.byteOfOffset? source o).bind (g.hoverAtByte? source tree dialect)

/-- The hover at a position of a stylesheet. -/
def hoverAt? (g : Guide) (source : String) (tree : Tree) (dialect : Dialect) (p : Position) :
    Option Hover :=
  (Text.offsetOfPosition? source p).bind (g.hoverAtOffset? source tree dialect)

/-- The hover at a position of an open document, if it has a syntax tree. -/
def hoverIn? (g : Guide) (d : Document) (p : Position) : Option Hover :=
  d.tree.bind fun tree => g.hoverAt? d.content tree d.dialect p

end Guide

end StyleLens
