import StyleLens.Text.Basic
import StyleLens.Text.Measure
import StyleLens.Tree.Kind

/-!
# Syntax trees

The concrete syntax tree of a stylesheet: every node has a label, which says
what it is and which bytes of the source it covers, and its children, tokens
included. A tree is handed over as its nodes in preorder, each with its depth
(`Tree.ofPreorder?`). The stylesheets of all dialects (`Dialect`) have trees of
this one type.
-/

namespace StyleLens

/-- The language of a stylesheet. -/
inductive Dialect where
  | css
  | scss
  | less
  deriving DecidableEq

/-- The dialect of a language id of an editor, in any letter case; plain CSS for
    an id that is not known. -/
def Dialect.ofLanguageId (id : String) : Dialect :=
  let id := String.ofList (Text.lower id.toList)
  if id = "scss" ∨ id = "sass" then scss else if id = "less" then less else css

/-- What a node is, and the half-open stretch of bytes that it covers. -/
structure Label where
  /-- The grammar's name of the node; of an anonymous token, its text. -/
  tag : String
  named : Bool
  start : Nat
  stop : Nat
  deriving DecidableEq

/-- The kind of a node with a label. -/
def Label.kind (l : Label) : Kind :=
  if l.named ∨ l.tag = Kind.errorTag then Kind.ofTag l.tag else Kind.ofToken l.tag

/-- A syntax tree: a label and the trees below it, in order. -/
inductive Tree where
  | node (label : Label) (children : List Tree)

namespace Tree

/-- The label of the root. -/
def label : Tree → Label
  | node l _ => l

/-- The trees below the root. -/
def children : Tree → List Tree
  | node _ cs => cs

/-- The tag of the root. -/
abbrev tag (t : Tree) : String := t.label.tag

/-- Whether the root is a named node. -/
abbrev named (t : Tree) : Bool := t.label.named

/-- The first byte of the tree. -/
abbrev start (t : Tree) : Nat := t.label.start

/-- The byte after the last one of the tree. -/
abbrev stop (t : Tree) : Nat := t.label.stop

/-- The kind of the root. -/
abbrev kind (t : Tree) : Kind := t.label.kind

/-- Whether the tree is the anonymous token `token`. -/
def isToken (t : Tree) (token : String) : Bool := !t.named && t.tag == token

/-- The text that a tree covers in `source`, empty if it does not fit there. -/
def text (source : String) (t : Tree) : String := (Text.slice? source t.start t.stop).getD ""

/-! ### Preorder -/

/-- Put a node in front of a forest: the trees deeper than it, up to the first
    one that is not, become its children. -/
def graft (entry : Nat × Label) (forest : List (Nat × Tree)) : List (Nat × Tree) :=
  let below := fun (tree : Nat × Tree) => decide (entry.1 < tree.1)
  (entry.1, node entry.2 ((forest.takeWhile below).map Prod.snd)) :: forest.dropWhile below

/-- The tree with the given nodes in preorder, each with its depth, if they are
    those of one tree. -/
def ofPreorder? (entries : List (Nat × Label)) : Option Tree :=
  match entries.foldr graft [] with
  | [(_, t)] => some t
  | _ => none

mutual

/-- The nodes of a tree in preorder. -/
def preorder : Tree → List Tree
  | node l cs => node l cs :: preorderAll cs

/-- The nodes of some trees in preorder. -/
def preorderAll : List Tree → List Tree
  | [] => []
  | t :: ts => preorder t ++ preorderAll ts

end

/-- The first node with a tag, depth first. -/
def findTag? (t : Tree) (tag : String) : Option Tree := t.preorder.find? (·.tag == tag)

/-! ### Marked names -/

/-- The child right after the first token `token` that stands in front of
    another child, if that child is a named node. -/
def afterToken? (token : String) : List Tree → Option Tree
  | mark :: name :: rest =>
    if mark.isToken token then (if name.named then some name else none)
    else afterToken? token (name :: rest)
  | _ => none

/-- The name that a marker token such as `.` or `::` introduces in a node. -/
def nameAfter? (t : Tree) (token : String) : Option Tree := afterToken? token t.children

end Tree

end StyleLens
