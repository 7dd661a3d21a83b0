import StyleLens.Log
import StyleLens.Text.Position
import StyleLens.Tree.Basic

/-!
# Open documents

A stylesheet that is open in an editor: its text, its dialect, its version and
the syntax tree of the text. The editor sends its changes one by one; after
them the text is parsed again.

* `Document.edit`: one change, which replaces a range or everything; a range on
  lines that do not exist is ignored, with a warning;
* `Document.update`: some changes and a new version.

How a text is parsed is a parameter: a `Parser` gives the tree of a text, if
there is one.
-/

namespace StyleLens

/-- What makes syntax trees of texts. -/
abbrev Parser := String → Option Tree

/-- A change of a text: a new text for a range, or else for all of it. -/
structure Change where
  range : Option Range
  text : String
  deriving DecidableEq

/-- An open stylesheet. -/
structure Document where
  uri : String
  dialect : Dialect
  version : Int
  content : String
  tree : Option Tree

namespace Position

/-- The text of a position in the log. -/
def render (p : Position) : String :=
  "Position \x7b line: " ++ Nat.repr p.line.toNat ++ ", character: "
    ++ Nat.repr p.character.toNat ++ " \x7d"

end Position

namespace Range

/-- The text of a range in the log. -/
def render (r : Range) : String :=
  "Range \x7b start: " ++ r.start.render ++ ", end: " ++ r.stop.render ++ " \x7d"

end Range

namespace Text

/-- A text with the part from byte `i` to byte `j` replaced by `t`. -/
def splice (s : String) (i j : Nat) (t : String) : String :=
  let cs := s.toList
  String.ofList (takeBytes i cs ++ t.toList ++ dropBytes j cs)

/-- A text with a range replaced by `t`, if the lines of the range exist. A range
    that ends before it starts is empty. -/
def replace? (s : String) (r : Range) (t : String) : Option String := do
  let i ← byteOfPosition? s r.start
  let j ← byteOfPosition? s r.stop
  pure (splice s i (max i j) t)

end Text

namespace Document

/-- A document that is not parsed yet. -/
def create (uri : String) (dialect : Dialect) (content : String) (version : Int) : Document :=
  ⟨uri, dialect, version, content, none⟩

/-- A document with the tree of its text. -/
def reparse (parse : Parser) (d : Document) : Document :=
  ⟨d.uri, d.dialect, d.version, d.content, parse d.content⟩

/-- A document parsed for the first time, with a warning if there is no tree. -/
def parseFirst (parse : Parser) (d : Document) : Document × List LogRecord :=
  let parsed := d.reparse parse
  (parsed, if parsed.tree.isNone then [.warn ("Failed to parse " ++ d.uri)] else [])

/-- A document with another text, which has no tree yet. -/
def withContent (d : Document) (content : String) : Document :=
  ⟨d.uri, d.dialect, d.version, content, none⟩

/-- A document with one change applied to its text. -/
def edit (d : Document) (c : Change) : Document × List LogRecord :=
  match c.range with
  | none => (d.withContent c.text, [])
  | some r =>
    match Text.replace? d.content r c.text with
    | some content => (d.withContent content, [])
    | none => (d, [.warn ("Ignoring change outside of " ++ d.uri ++ ": " ++ r.render)])

/-- A document with some changes applied to its text in order. -/
def editAll (d : Document) : List Change → Document × List LogRecord
  | [] => (d, [])
  | c :: cs =>
    let first := d.edit c
    let others := first.1.editAll cs
    (others.1, first.2 ++ others.2)

/-- A document with some changes and a new version, parsed again if a change was
    applied to it. -/
def update (parse : Parser) (d : Document) (changes : List Change) (version : Int) :
    Document × List LogRecord :=
  let edited := editAll ⟨d.uri, d.dialect, version, d.content, d.tree⟩ changes
  (if edited.1.tree.isNone then edited.1.reparse parse else edited.1, edited.2)

end Document

end StyleLens
