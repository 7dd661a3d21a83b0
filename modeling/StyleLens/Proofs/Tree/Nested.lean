import Mathlib.Data.List.Chain
import Mathlib.Logic.Relation
import StyleLens.Tree.Focus

/-!
# Trees whose ranges nest

In the syntax tree of a text, ranges nest (`Tree.Nested`): the range of a node
lies in the range of its parent, and siblings stand in order, none of them
starting before the one in front of it has ended. A node may have no width.

A node of such a tree is a `Focus`, which knows its place. The nodes of its
subtree are those that a path of child places leads to (`Focus.AtOrBelow`), and
its ancestors are those that it climbs to (`Focus.Climbs`, and `Focus.ClimbsBy` if
all of them on the way have a property).

* `Focus.AtOrBelow.nested`, `Focus.AtOrBelow.inside`: below a node whose ranges
  nest, ranges nest and lie in the range of the node;
* `Focus.Climbs.atOrBelow`: a node of a tree stands below its ancestors.
-/

namespace StyleLens

namespace Tree

/-- To prove a property of all trees, prove it of a node whose children have it. -/
@[elab_as_elim]
theorem children_induction {P : Tree → Prop} (node : ∀ l cs, (∀ t ∈ cs, P t) → P (.node l cs)) :
    ∀ t, P t
  | .node l cs => node l cs fun t _ => children_induction node t

mutual

/-- Whether the ranges of a tree nest: no node ends before it starts, a child lies
    in the range of its parent, and no child starts before the one in front of it
    has ended. -/
def Nested : Tree → Prop
  | node l cs =>
    l.start ≤ l.stop ∧ (∀ t ∈ cs, l.start ≤ t.start ∧ t.stop ≤ l.stop) ∧
      cs.IsChain (fun t u => t.stop ≤ u.start) ∧ NestedAll cs

/-- Whether the ranges of each of some trees nest. -/
def NestedAll : List Tree → Prop
  | [] => True
  | t :: ts => Nested t ∧ NestedAll ts

end

mutual

instance decidableNested : (t : Tree) → Decidable t.Nested
  | node l cs =>
    have := decidableNestedAll cs
    inferInstanceAs (Decidable (l.start ≤ l.stop ∧
      (∀ t ∈ cs, l.start ≤ t.start ∧ t.stop ≤ l.stop) ∧
        cs.IsChain (fun t u => t.stop ≤ u.start) ∧ NestedAll cs))

instance decidableNestedAll : (ts : List Tree) → Decidable (NestedAll ts)
  | [] => inferInstanceAs (Decidable True)
  | t :: ts =>
    have := decidableNested t
    have := decidableNestedAll ts
    inferInstanceAs (Decidable (t.Nested ∧ NestedAll ts))

end

theorem nestedAll_iff {ts : List Tree} : NestedAll ts ↔ ∀ t ∈ ts, t.Nested := by
  induction ts with
  | nil => simp [NestedAll]
  | cons t ts ih => simp [NestedAll, ih]

variable {t u : Tree}

/-- A node does not end before it starts. -/
theorem Nested.start_le_stop (h : t.Nested) : t.start ≤ t.stop := by
  cases t with
  | node l cs => exact h.1

/-- The range of a child lies in the range of its parent. -/
theorem Nested.child_inside (h : t.Nested) (hu : u ∈ t.children) :
    t.start ≤ u.start ∧ u.stop ≤ t.stop := by
  cases t with
  | node l cs => exact h.2.1 u hu

/-- The ranges of a child nest. -/
theorem Nested.child (h : t.Nested) (hu : u ∈ t.children) : u.Nested := by
  cases t with
  | node l cs => exact nestedAll_iff.1 h.2.2.2 u hu

/-- A child starts after all children in front of it have ended. -/
theorem Nested.pairwise_children (h : t.Nested) :
    t.children.Pairwise fun u v => u.stop ≤ v.start := by
  cases t with
  | node l cs =>
    -- From one child to the next the bytes only grow, as no child ends before it starts.
    have hall := nestedAll_iff.1 h.2.2.2
    have hchain := h.2.2.1
    change cs.Pairwise _
    clear h
    induction cs with
    | nil => exact .nil
    | cons u us ih =>
      have hus := ih (fun v hv => hall v (List.mem_cons_of_mem _ hv)) hchain.tail
      refine List.pairwise_cons.2 ⟨fun v hv => ?_, hus⟩
      cases us with
      | nil => exact absurd hv List.not_mem_nil
      | cons w ws =>
        have huw : u.stop ≤ w.start := (List.isChain_cons_cons.1 hchain).1
        rcases List.mem_cons.1 hv with rfl | hv
        · exact huw
        · have hw := (hall w (by simp)).start_le_stop
          have hwv := (List.pairwise_cons.1 hus).1 v hv
          omega

end Tree

namespace Focus

variable {f g r a : Focus} {t : Tree} {i : Nat} {path : List Nat}

/-! ### Children and parents -/

/-- The child at a place is a child of the node, at that place. -/
theorem child?_eq_some_iff :
    f.child? i = some g ↔ f.node.children[i]? = some g.node ∧ g.trail = ⟨f.node, i⟩ :: f.trail := by
  obtain ⟨node, trail⟩ := g
  simp only [child?, Option.map_eq_some_iff, Focus.mk.injEq]
  constructor
  · rintro ⟨c, hc, rfl, rfl⟩
    exact ⟨hc, rfl⟩
  · rintro ⟨hc, rfl⟩
    exact ⟨node, hc, rfl, rfl⟩

/-- A child is one of the children of the node. -/
theorem node_mem_of_child? (h : f.child? i = some g) : g.node ∈ f.node.children :=
  List.mem_of_getElem? (child?_eq_some_iff.1 h).1

/-- The parent of a child is the node. -/
theorem parent?_of_child? (h : f.child? i = some g) : g.parent? = some f := by
  rw [parent?, (child?_eq_some_iff.1 h).2]

/-- The children are the nodes at the places of the children. -/
theorem mem_children_iff : g ∈ f.children ↔ ∃ i, f.child? i = some g := by
  simp only [children, List.mem_mapIdx, child?, Option.map_eq_some_iff]
  constructor
  · rintro ⟨i, hi, rfl⟩
    exact ⟨i, _, List.getElem?_eq_getElem hi, rfl⟩
  · rintro ⟨i, c, hc, rfl⟩
    obtain ⟨hi, rfl⟩ := List.getElem?_eq_some_iff.1 hc
    exact ⟨i, hi, rfl⟩

/-! ### Subtrees -/

/-- `f` is a node of the subtree of `r`: a path of child places leads from `r`
    to it. -/
def AtOrBelow (f r : Focus) : Prop := ∃ path, r.descend? path = some f

/-- `f` is a node of the subtree of `r` other than `r`. -/
def Below (f r : Focus) : Prop := ∃ path ≠ [], r.descend? path = some f

theorem descend?_cons_eq_some_iff :
    f.descend? (i :: path) = some g ↔ ∃ c, f.child? i = some c ∧ c.descend? path = some g := by
  rw [descend?, Option.bind_eq_some_iff]

/-- A path is taken in two parts, one after the other. -/
theorem descend?_append (p q : List Nat) :
    f.descend? (p ++ q) = (f.descend? p).bind (·.descend? q) := by
  induction p generalizing f with
  | nil => rfl
  | cons i p ih =>
    rw [List.cons_append, descend?, descend?]
    cases f.child? i with
    | none => rfl
    | some c => exact ih

/-- Each step of a path adds a step to the trail. -/
theorem length_trail_of_descend? (h : f.descend? path = some g) :
    g.trail.length = f.trail.length + path.length := by
  induction path generalizing f with
  | nil => cases h; rfl
  | cons i path ih =>
    obtain ⟨c, hc, hg⟩ := descend?_cons_eq_some_iff.1 h
    rw [ih hg, (child?_eq_some_iff.1 hc).2, List.length_cons, List.length_cons]
    omega

theorem AtOrBelow.refl (f : Focus) : f.AtOrBelow f := ⟨[], rfl⟩

/-- A subtree of a subtree is a subtree. -/
theorem AtOrBelow.trans (hf : f.AtOrBelow g) (hg : g.AtOrBelow r) : f.AtOrBelow r := by
  obtain ⟨q, hq⟩ := hf
  obtain ⟨p, hp⟩ := hg
  exact ⟨p ++ q, by rw [descend?_append, hp, Option.bind_some, hq]⟩

theorem AtOrBelow.of_child? (h : f.child? i = some g) : g.AtOrBelow f :=
  ⟨[i], descend?_cons_eq_some_iff.2 ⟨g, h, rfl⟩⟩

theorem Below.atOrBelow (h : f.Below r) : f.AtOrBelow r :=
  let ⟨path, _, hpath⟩ := h
  ⟨path, hpath⟩

/-- What stands below a node stands at or below one of its children. -/
theorem below_iff : f.Below r ↔ ∃ i c, r.child? i = some c ∧ f.AtOrBelow c := by
  constructor
  · rintro ⟨path, hne, hpath⟩
    obtain ⟨i, path, rfl⟩ := List.exists_cons_of_ne_nil hne
    obtain ⟨c, hc, hf⟩ := descend?_cons_eq_some_iff.1 hpath
    exact ⟨i, c, hc, path, hf⟩
  · rintro ⟨i, c, hc, path, hf⟩
    exact ⟨i :: path, List.cons_ne_nil _ _, descend?_cons_eq_some_iff.2 ⟨c, hc, hf⟩⟩

/-- A node of a subtree is the root of it or stands below the root. -/
theorem atOrBelow_iff : f.AtOrBelow r ↔ f = r ∨ f.Below r := by
  constructor
  · rintro ⟨path, hpath⟩
    by_cases hne : path = []
    · subst hne
      exact .inl (Option.some.inj hpath).symm
    · exact .inr ⟨path, hne, hpath⟩
  · rintro (rfl | h)
    · exact .refl f
    · exact h.atOrBelow

/-- No node stands below a node of its own subtree. -/
theorem Below.not_atOrBelow (h : f.Below r) : ¬r.AtOrBelow f := by
  rintro ⟨q, hq⟩
  obtain ⟨p, hne, hp⟩ := h
  have hf := length_trail_of_descend? hp
  have hr := length_trail_of_descend? hq
  have := List.length_pos_iff.2 hne
  omega

/-- Below a node whose ranges nest, ranges nest. -/
theorem AtOrBelow.nested (h : f.AtOrBelow r) (hr : r.node.Nested) : f.node.Nested := by
  obtain ⟨path, h⟩ := h
  induction path generalizing r with
  | nil => cases h; exact hr
  | cons i path ih =>
    obtain ⟨c, hc, hf⟩ := descend?_cons_eq_some_iff.1 h
    exact ih (hr.child (node_mem_of_child? hc)) hf

/-- Below a node whose ranges nest, ranges lie in the range of the node. -/
theorem AtOrBelow.inside (h : f.AtOrBelow r) (hr : r.node.Nested) :
    r.node.start ≤ f.node.start ∧ f.node.stop ≤ r.node.stop := by
  obtain ⟨path, h⟩ := h
  induction path generalizing r with
  | nil => cases h; exact ⟨le_rfl, le_rfl⟩
  | cons i path ih =>
    obtain ⟨c, hc, hf⟩ := descend?_cons_eq_some_iff.1 h
    have hmem := node_mem_of_child? hc
    obtain ⟨hstart, hstop⟩ := hr.child_inside hmem
    obtain ⟨hstart', hstop'⟩ := ih (hr.child hmem) hf
    exact ⟨hstart.trans hstart', hstop'.trans hstop⟩

/-! ### Ancestors -/

/-- `f` climbs to `a`: going from parent to parent, in any number of steps, leads
    from `f` to `a`. -/
def Climbs : Focus → Focus → Prop := Relation.ReflTransGen fun f p => f.parent? = some p

/-- `f` climbs to `a` by nodes that satisfy `p`: all nodes above `f` up to and with `a`
    do. -/
def ClimbsBy (p : Focus → Prop) : Focus → Focus → Prop :=
  Relation.ReflTransGen fun f q => f.parent? = some q ∧ p q

theorem ClimbsBy.climbs {p : Focus → Prop} (h : f.ClimbsBy p a) : f.Climbs a := by
  induction h with
  | refl => exact .refl
  | tail _ hstep ih => exact ih.tail hstep.1

/-- The parent of a node of a tree is a node of the tree, and has it as a child. -/
theorem AtOrBelow.parent? (h : f.AtOrBelow (.root t)) (hp : f.parent? = some a) :
    a.AtOrBelow (.root t) ∧ ∃ i, a.child? i = some f := by
  obtain ⟨path, h⟩ := h
  rcases List.eq_nil_or_concat path with rfl | ⟨q, i, rfl⟩
  · cases h; cases hp
  · -- The node before the last step of the path is the parent.
    rw [List.concat_eq_append, descend?_append] at h
    obtain ⟨g, hg, hi⟩ := Option.bind_eq_some_iff.1 h
    obtain ⟨c, hc, hcf⟩ := descend?_cons_eq_some_iff.1 hi
    cases hcf
    obtain rfl : g = a := Option.some.inj ((parent?_of_child? hc).symm.trans hp)
    exact ⟨⟨q, hg⟩, i, hc⟩

/-- The ancestors of a node of a tree are nodes of the tree, and the node stands
    below them. -/
theorem Climbs.atOrBelow (h : f.Climbs a) (hf : f.AtOrBelow (.root t)) :
    a.AtOrBelow (.root t) ∧ f.AtOrBelow a := by
  induction h with
  | refl => exact ⟨hf, .refl f⟩
  | tail _ hp ih =>
    obtain ⟨ha, i, hi⟩ := ih.1.parent? hp
    exact ⟨ha, ih.2.trans (.of_child? hi)⟩

end Focus

end StyleLens
