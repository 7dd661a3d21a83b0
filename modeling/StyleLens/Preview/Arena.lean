import StyleLens.Preview.Basic

/-!
# Previews in an arena

A preview kept flat: the nodes of its outline stand in one list, in the order in
which they were made, and know each other by their places in it. The root is the
first of them and shows nothing. Besides the nodes, there is the place of the
current element and how the next compound relates to it.

Every place is looked up before it is used, so that a result of `none` says that
some place was out of bounds, or that places led back to themselves.

* `Arena.push`, `Arena.ofLevels`: the selectors of some levels;
* `Arena.drawn`, `Arena.render`: the nodes from top to bottom, and their text.
-/

namespace StyleLens

/-- A node of a preview: its line, unless it is the root, the place of the node
    that it stands below and the places of the nodes below it. -/
structure ArenaNode where
  line : Option PreviewLine
  parent : Option Nat
  children : List Nat

/-- A preview under construction, in an arena. -/
structure Arena where
  nodes : List ArenaNode
  /-- The place of the last element, or of the root before the first one. -/
  current : Nat
  /-- How the next compound relates to the last element, unless it is the first. -/
  relation : Option Combinator

namespace Arena

/-- The place of the root. -/
def root : Nat := 0

/-- The preview of no selector. -/
def empty : Arena := ⟨[⟨none, none, []⟩], root, none⟩

/-- Some nodes with one more, which stands below the node at a place. -/
def grow? (nodes : List ArenaNode) (parent : Nat) (line : PreviewLine) :
    Option (List ArenaNode) := do
  let grown := nodes ++ [⟨some line, some parent, []⟩]
  let holder ← grown[parent]?
  pure (grown.set parent ⟨holder.line, holder.parent, holder.children ++ [nodes.length]⟩)

/-- An arena with a gap below the node at a place. -/
def addGap (a : Arena) (parent : Nat) (label : String) : Option Arena :=
  (grow? a.nodes parent (.gap label)).map fun nodes => ⟨nodes, a.current, a.relation⟩

/-- An arena with the element of a compound below the current node. The next
    compound is a descendant of it, unless a combinator says otherwise. -/
def addElement (a : Arena) (c : Compound) : Option Arena :=
  (grow? a.nodes a.current (.element (.ofCompound c))).map fun nodes =>
    ⟨nodes, a.nodes.length, some .descendant⟩

/-- An arena whose current node is the one that the current node stands below. -/
def leave (a : Arena) : Option Arena :=
  a.nodes[a.current]?.map fun node => ⟨a.nodes, node.parent.getD a.current, a.relation⟩

/-- An arena with the element of the next compound, at the place that its relation
    to the current element says. -/
def pushCompound (a : Arena) (c : Compound) : Option Arena :=
  match a.relation with
  | some .descendant => do
    let gapped ← a.addGap a.current ellipsis
    addElement ⟨gapped.nodes, a.nodes.length, gapped.relation⟩ c
  | some .nextSibling => do
    let left ← a.leave
    left.addElement c
  | some .subsequentSibling => do
    let left ← a.leave
    let gapped ← left.addGap left.current verticalEllipsis
    gapped.addElement c
  | some .child | none => a.addElement c

/-- An arena with one more compound behind a combinator. -/
def pushLink (a : Arena) (link : Combinator × Compound) : Option Arena :=
  pushCompound ⟨a.nodes, a.current, some link.1⟩ link.2

/-- An arena with the first compound of the next level. With `&`, it refines the
    current element, if there is one. -/
def pushFirst (a : Arena) (c : Compound) : Option Arena :=
  if c.hasAmpersand ∧ a.current ≠ root ∧ a.relation = some .descendant then do
    let node ← a.nodes[a.current]?
    match node.line with
    | some (.element e) =>
      pure ⟨a.nodes.set a.current ⟨some (.element (e.merge c)), node.parent, node.children⟩,
        a.current, a.relation⟩
    | _ => a.pushCompound c
  else a.pushCompound c

/-- An arena with the selector of the next level. -/
def push (a : Arena) (s : Selector) : Option Arena := do
  let started ← a.pushFirst s.first
  s.rest.foldlM pushLink started

/-- The arena of the selectors of some levels, outermost first. -/
def ofLevels (levels : List Selector) : Option Arena := levels.foldlM push empty

/-- The nodes at some places and all below them from top to bottom, each with its
    depth, its place and its line. Where places lead back to themselves, there are
    more depths than nodes, and nothing is drawn. -/
def visits (nodes : List ArenaNode) (d : Nat) :
    List Nat → Option (List (Nat × Nat × PreviewLine))
  | [] => some []
  | i :: siblings =>
    if d < nodes.length then do
      let node ← nodes[i]?
      let below ← visits nodes (d + 1) node.children
      let others ← visits nodes d siblings
      pure (node.line.toList.map (fun line => (d, i, line)) ++ below ++ others)
    else none
termination_by siblings => (nodes.length - d, siblings.length)

/-- The nodes below the root, as they are drawn. -/
def drawn (a : Arena) : Option (List (Nat × Nat × PreviewLine)) := do
  let top ← a.nodes[root]?
  visits a.nodes 0 top.children

/-- The text of an arena, a line for each node that is drawn. -/
def render (a : Arena) : Option String :=
  a.drawn.map fun visited =>
    "\n".intercalate (visited.map fun (d, _, line) => Preview.renderLine (d, line))

end Arena

end StyleLens
