import StyleLens.Tree.Focus

/-!
# The node under the cursor

The innermost node that covers a byte. A node covers the byte right after its
last one too, so that a cursor at the end of a word is still on it; where two
siblings meet, the one that starts at the byte wins. Nodes of no width stand
for tokens that are missing and are never under a cursor.
-/

namespace StyleLens

namespace Focus

mutual

/-- The innermost node of a tree, below a trail, that covers byte `o`; the tree
    itself if none of its children does. -/
def innermost (o : Nat) (trail : List Step) : Tree → Focus
  | .node l cs => (innermostAmong o trail (.node l cs) 0 cs).getD ⟨.node l cs, trail⟩

/-- The same below the children of `parent` from place `i` on, of which the
    last one that covers the byte is taken, or the first that starts at it. -/
def innermostAmong (o : Nat) (trail : List Step) (parent : Tree) (i : Nat) :
    List Tree → Option Focus
  | [] => none
  | t :: ts =>
    if o < t.start then none
    else if t.start = t.stop ∨ t.stop < o then innermostAmong o trail parent (i + 1) ts
    else if t.start = o then some (innermost o (⟨parent, i⟩ :: trail) t)
    else innermostAmong o trail parent (i + 1) ts <|> some (innermost o (⟨parent, i⟩ :: trail) t)

end

/-- The innermost node at or below `f` that covers byte `o`, if `f` covers it.
    The root of a tree covers the blanks in front of it as well. -/
def under? (f : Focus) (o : Nat) : Option Focus :=
  let first := if f.trail.isEmpty then 0 else f.node.start
  if o < first ∨ f.node.stop < o then none else some (innermost o f.trail f.node)

end Focus

end StyleLens
