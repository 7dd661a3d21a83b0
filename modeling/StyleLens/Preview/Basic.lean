import StyleLens.Preview.Element
import StyleLens.Preview.Outline

/-!
# Previews of selectors

The elements that a selector speaks of, drawn as an outline of start tags:
`div > .item a` is

```text
<div>
  <element class="item">
    …
      <a>
```

Selectors are pushed level by level, from the outermost of some nested rules
inwards. A level goes on below the one before it as a descendant, unless its
first compound has `&`: then it refines the last element of that level.
-/

namespace StyleLens

/-- The text that stands for siblings that a selector leaves open. -/
def verticalEllipsis : String := "⋮"

/-- A line of a preview. -/
inductive PreviewLine where
  | element (e : Element)
  /-- What a combinator leaves open. -/
  | gap (label : String)
  deriving DecidableEq

/-- The text of a line. -/
def PreviewLine.render : PreviewLine → String
  | .element e => e.render
  | .gap label => label

/-- A line that satisfies one more compound, if it is an element. -/
def PreviewLine.merge (c : Compound) : PreviewLine → PreviewLine
  | .element e => .element (e.merge c)
  | .gap label => .gap label

/-- A preview under construction: the outline, and the depth of the last element,
    which stands at its lower end. Before the first element there is none. -/
structure Preview where
  outline : List (Outline PreviewLine)
  depth : Option Nat

namespace Preview

/-- The preview of no selector. -/
def empty : Preview := ⟨[], none⟩

/-- A preview with the element of a compound at a depth. -/
def addElement (p : Preview) (d : Nat) (c : Compound) : Preview :=
  ⟨Outline.addAt d (.element (.ofCompound c)) p.outline, some d⟩

/-- A preview with a gap at a depth. -/
def addGap (p : Preview) (d : Nat) (label : String) : Preview :=
  ⟨Outline.addAt d (.gap label) p.outline, p.depth⟩

/-- A preview with one more compound, which a combinator relates to the element
    at depth `d`. -/
def place (p : Preview) (d : Nat) (c : Combinator) (compound : Compound) : Preview :=
  match c with
  | .descendant => (p.addGap (d + 1) ellipsis).addElement (d + 2) compound
  | .child => p.addElement (d + 1) compound
  | .nextSibling => p.addElement d compound
  | .subsequentSibling => (p.addGap d verticalEllipsis).addElement d compound

/-- A preview with one more compound behind a combinator. -/
def pushLink (p : Preview) (link : Combinator × Compound) : Preview :=
  match p.depth with
  | none => p.addElement 0 link.2
  | some d => p.place d link.1 link.2

/-- A preview with the first compound of the next level. -/
def pushFirst (p : Preview) (compound : Compound) : Preview :=
  match p.depth with
  | none => p.addElement 0 compound
  | some d =>
    if compound.hasAmpersand then ⟨Outline.modifyAt d (PreviewLine.merge compound) p.outline, p.depth⟩
    else p.place d .descendant compound

/-- A preview with the selector of the next level. -/
def push (p : Preview) (s : Selector) : Preview := s.rest.foldl pushLink (p.pushFirst s.first)

/-- The preview of the selectors of some levels, outermost first. -/
def ofLevels (levels : List Selector) : Preview := levels.foldl push empty

/-- A line of text: two blanks for each level of depth, then the item. -/
def renderLine (entry : Nat × PreviewLine) : String :=
  String.join (List.replicate entry.1 "  ") ++ entry.2.render

/-- The text of a preview, a line for each item. -/
def render (p : Preview) : String :=
  "\n".intercalate ((Outline.entries 0 p.outline).map renderLine)

end Preview

end StyleLens
