/-!
# Outlines

An outline is a list of items, each with an outline below it, as a program
would draw it by indentation. Items are only ever added at the lower end: after
everything else, at a depth that the last item and its ancestors leave open.
So a depth is enough to name a place on that end.

* `Outline.addAt`: one more item at the lower end, at a depth;
* `Outline.modifyAt`: a change of the item at the lower end at a depth;
* `Outline.entries`: the items in the order in which they are drawn, with depths.
-/

namespace StyleLens

/-- An item and the items below it. -/
inductive Outline (α : Type) where
  | item (value : α) (below : List (Outline α))

namespace Outline

variable {α : Type}

/-- The outlines with one more item at depth `d` of the lower end. Where the
    lower end does not reach that deep, the item goes below the last one. -/
def addAt (d : Nat) (value : α) (outlines : List (Outline α)) : List (Outline α) :=
  match d with
  | 0 => outlines ++ [item value []]
  | d + 1 =>
    match outlines.getLast? with
    | none => [item value []]
    | some (item v below) => outlines.dropLast ++ [item v (addAt d value below)]

/-- The outlines with the item at depth `d` of the lower end changed by `f`. -/
def modifyAt (d : Nat) (f : α → α) (outlines : List (Outline α)) : List (Outline α) :=
  match outlines.getLast? with
  | none => []
  | some (item v below) =>
    match d with
    | 0 => outlines.dropLast ++ [item (f v) below]
    | d + 1 => outlines.dropLast ++ [item v (modifyAt d f below)]

mutual

/-- An item and all below it from top to bottom, each with its depth. -/
def entriesOf (d : Nat) : Outline α → List (Nat × α)
  | item value below => (d, value) :: entries (d + 1) below

/-- The items of some outlines from top to bottom, each with its depth. -/
def entries (d : Nat) : List (Outline α) → List (Nat × α)
  | [] => []
  | o :: os => entriesOf d o ++ entries d os

end

end Outline

end StyleLens
