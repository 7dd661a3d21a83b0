import StyleLens.Tree.Basic

/-!
# Nodes in their surroundings

A `Focus` is a node of a tree together with the way up to the root: the parent
of the node and the place of the node among the children of the parent, then
the same for the parent, and so on. Moving up is dropping a step of the trail,
so every climb is a recursion on it.
-/

namespace StyleLens

/-- One step up: the parent, and which of its children was left. -/
structure Step where
  parent : Tree
  index : Nat

/-- A node and the steps from it up to the root, nearest first. -/
structure Focus where
  node : Tree
  trail : List Step

namespace Focus

/-- The root of a tree. -/
def root (t : Tree) : Focus := ⟨t, []⟩

/-- The kind of the node. -/
abbrev kind (f : Focus) : Kind := f.node.kind

/-- The label of the node. -/
abbrev label (f : Focus) : Label := f.node.label

/-- The parent, above which only the rest of the trail is left. -/
def parent? (f : Focus) : Option Focus :=
  match f.trail with
  | [] => none
  | step :: trail => some ⟨step.parent, trail⟩

/-- Whether the node has a parent that satisfies `p`. -/
def parentIs (f : Focus) (p : Kind → Bool) : Bool := f.parent?.any fun parent => p parent.kind

/-- The child at a place among the children. -/
def child? (f : Focus) (i : Nat) : Option Focus :=
  f.node.children[i]?.map fun t => ⟨t, ⟨f.node, i⟩ :: f.trail⟩

/-- The children, tokens included. -/
def children (f : Focus) : List Focus :=
  f.node.children.mapIdx fun i t => ⟨t, ⟨f.node, i⟩ :: f.trail⟩

/-- The sibling right before the node. -/
def previousSibling? (f : Focus) : Option Tree :=
  match f.trail with
  | ⟨parent, i + 1⟩ :: _ => parent.children[i]?
  | _ => none

/-- Whether the sibling right before the node is the token `token`. -/
def follows (f : Focus) (token : String) : Bool := f.previousSibling?.any (·.isToken token)

/-- The node that a path of child places leads to. -/
def descend? (f : Focus) : List Nat → Option Focus
  | [] => some f
  | i :: path => f.child? i |>.bind (·.descend? path)

mutual

/-- The nodes of a tree below a trail, in preorder. -/
def walk (trail : List Step) : Tree → List Focus
  | .node l cs => ⟨.node l cs, trail⟩ :: walkAll trail (.node l cs) 0 cs

/-- The nodes of the children of `parent` from place `i` on, in preorder. -/
def walkAll (trail : List Step) (parent : Tree) (i : Nat) : List Tree → List Focus
  | [] => []
  | t :: ts => walk (⟨parent, i⟩ :: trail) t ++ walkAll trail parent (i + 1) ts

end

/-- The node and all nodes below it, in preorder. -/
def preorder (f : Focus) : List Focus := walk f.trail f.node

end Focus

end StyleLens
