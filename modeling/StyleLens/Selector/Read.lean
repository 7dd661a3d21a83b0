import StyleLens.Selector.Basic
import StyleLens.Text.Basic
import StyleLens.Tree.Basic

/-!
# Selectors of a syntax tree

The syntax tree nests selectors to the left: in `.a.b c`, the class `.b` holds
the class `.a` as its first child, and the descendant selector holds both
operands. Ids, attributes and pseudo parts bind looser than combinators, so the
selector that such a part is attached to can be a whole chain: `a > b#c` is the
part `#c` attached to `a > b`. Reading a tree gives back the flat selector
(`Selector.read`).
-/

namespace StyleLens

/-- The token in front of the name of a class. -/
def classMark : String := "."

/-- The token in front of an id. -/
def idMark : String := "#"

/-- The token in front of the name of a pseudo-class. -/
def pseudoClassMark : String := ":"

/-- The token in front of the name of a pseudo-element. -/
def pseudoElementMark : String := "::"

/-- The inside of a text in single or double quotes, and any other text as it is. -/
def withoutQuotes (text : String) : String :=
  match text.toList with
  | mark :: rest =>
    if (mark = '\x22' ∨ mark = '\x27') ∧ rest.getLast? = some mark then String.ofList rest.dropLast
    else text
  | [] => text

namespace Simple

/-- The operator and the value of an attribute selector, from what follows the
    name of the attribute: the last token with an equals sign in front of the
    first named node, which is the value. -/
def operatorAndValue (source : String) (operator : Option String) :
    List Tree → Option String × Option String
  | [] => (operator, none)
  | t :: ts =>
    if t.named then (operator, some (withoutQuotes (t.text source)))
    else if t.tag.toList.getLast? = some '=' then operatorAndValue source (some t.tag) ts
    else operatorAndValue source operator ts

/-- The attribute selector with the given children, if one of them is a name. -/
def readAttribute? (source : String) (children : List Tree) : Option Simple :=
  match children.dropWhile (·.kind ≠ .attributeName) with
  | [] => none
  | name :: rest =>
    let (operator, value) := operatorAndValue source none rest
    some (.byAttribute (name.text source) operator value)

/-- The name of a pseudo selector in small letters, and its text from its mark on. -/
def readPseudo? (source : String) (t : Tree) (mark : String) : Option (String × String) := do
  let marker ← t.children.find? (·.isToken mark)
  let name ← t.nameAfter? mark
  pure (String.ofList (Text.lower (name.text source).toList),
    (Text.slice? source marker.start t.stop).getD "")

/-- The simple selector that a node adds by itself, without the selector that it
    is attached to. The selectors among its arguments are given. -/
def read? (source : String) (t : Tree) (arguments : List Selector) : Option Simple :=
  match t.kind with
  | .selector .tag => some (.type (t.text source))
  | .selector .universal => some .universal
  | .selector .nesting => some .nesting
  | .selector .byClass => (t.nameAfter? classMark).map fun name => .byClass (name.text source)
  | .selector .byId => (t.nameAfter? idMark).map fun name => .byId (name.text source)
  | .selector .byAttribute => readAttribute? source t.children
  | .selector .pseudoClass =>
    (readPseudo? source t pseudoClassMark).map fun (name, text) => .pseudoClass name text arguments
  | .selector .pseudoElement =>
    (readPseudo? source t pseudoElementMark).map fun (name, text) =>
      .pseudoElement name text arguments
  -- Of a name in a namespace only the name of the element matters.
  | .selector .namespaced =>
    (t.children.filter (·.named)).getLast?.map fun name =>
      if name.text source = "*" then .universal else .type (name.text source)
  | _ => none

end Simple

/-- The combinator of a node that joins two selectors. -/
def Kind.combinator? : Kind → Option Combinator
  | .selector (.joined c) => some c
  | _ => none

/-- Whether a kind is a part of a compound, which holds the selector that it is
    attached to as its first child. -/
def Kind.isPart : Kind → Bool
  | .selector .byClass | .selector .byId | .selector .byAttribute
  | .selector .pseudoClass | .selector .pseudoElement => true
  | _ => false

/-- Two operands joined by a combinator: the first of the operands that were
    read, and the last of the others. Without a second one the combinator is
    dropped. -/
def Selector.joinOperands (c : Combinator) : List Selector → Selector
  | [] => .empty
  | left :: others =>
    match others.getLast? with
    | none => left
    | some right => left.join c right

namespace Selector

mutual

/-- The selector of a node of the syntax tree. -/
def read (source : String) : Tree → Selector
  | .node l cs =>
    match l.kind.combinator? with
    | some c => joinOperands c (readNamed source cs)
    | none =>
      let attached := if l.kind.isPart then readFirst source cs else .empty
      attached.extendLast (Simple.read? source (.node l cs) (readArguments source cs)).toList

/-- The selectors of the named nodes among some nodes. -/
def readNamed (source : String) : List Tree → List Selector
  | [] => []
  | t :: ts => if t.named then read source t :: readNamed source ts else readNamed source ts

/-- The selector of the first of some nodes, if it is a named one. -/
def readFirst (source : String) : List Tree → Selector
  | [] => .empty
  | t :: _ => if t.named then read source t else .empty

/-- The selectors in the first arguments among some nodes. -/
def readArguments (source : String) : List Tree → List Selector
  | [] => []
  | .node l cs :: ts =>
    if l.kind = .arguments then readSelectors source cs else readArguments source ts

/-- The selectors of the selector nodes among some nodes. -/
def readSelectors (source : String) : List Tree → List Selector
  | [] => []
  | t :: ts =>
    if t.kind.isSelector then read source t :: readSelectors source ts else readSelectors source ts

end

end Selector

end StyleLens
