import StyleLens.Nesting
import StyleLens.Proofs.Preview.Outline
import StyleLens.Proofs.Specificity

/-!
# Nested rules and flat selectors

Rules that are nested mean one selector, which could have been written without
nesting (`Selector.resolve`): a level with `&` in its first compound goes on in
the last compound of the levels around it, and any other level is a descendant
of them.

The levels and the resolved selector draw the same preview and weigh the same.
For the preview, a push leaves an element at the lower end with room below it
(`Preview.Ready`), so that a refinement by `&` finds the element that was placed
last, and an element that is refined is the element of the longer compound
(`Preview.refineLast_push`). For the weight, `&` weighs nothing and sums may be
grouped at will (`Selector.specificity_nest`).
-/

namespace StyleLens

/-! ### The resolved selector -/

/-- A compound without its `&`. -/
def Compound.withoutAmpersand (c : Compound) : Compound := c.filter fun s => !s.isAmpersand

namespace Selector

/-- The selector of a rule that is nested in a rule with the selector `outer`. -/
def nest (outer inner : Selector) : Selector :=
  if Compound.hasAmpersand inner.first then
    let refined := outer.extendLast (Compound.withoutAmpersand inner.first)
    ⟨refined.first, refined.rest ++ inner.rest⟩
  else ⟨outer.first, outer.rest ++ (.descendant, inner.first) :: inner.rest⟩

/-- The selector of some nested rules, outermost first. -/
def resolve : List Selector → Selector
  | [] => .empty
  | s :: inner => inner.foldl nest s

end Selector

/-! ### Elements -/

namespace Element

/-- To merge two compounds one after the other is to merge them written as one. -/
theorem merge_merge (e : Element) (c d : Compound) : (e.merge c).merge d = e.merge (c ++ d) :=
  (List.foldl_append ..).symm

/-- `&` says nothing about an element by itself. -/
theorem merge_withoutAmpersand (e : Element) (c : Compound) :
    e.merge (Compound.withoutAmpersand c) = e.merge c := by
  induction c generalizing e with
  | nil => rfl
  | cons s c ih =>
    cases s with
    | nesting => exact ih e
    | _ => exact ih _

end Element

/-! ### Previews -/

namespace Preview

variable {p : Preview}

/-- The last element of the preview is at its depth, with room below it. -/
def Ready (p : Preview) : Prop := ∃ d, p.depth = some d ∧ Outline.Open (d + 1) p.outline

/-- A preview whose last element satisfies one more compound. -/
def refineLast (p : Preview) (c : Compound) : Preview :=
  match p.depth with
  | none => p
  | some d => ⟨Outline.modifyAt d (PreviewLine.merge c) p.outline, p.depth⟩

theorem ready_addElement {d : Nat} (c : Compound) (h : Outline.Open d p.outline) :
    (p.addElement d c).Ready :=
  ⟨d, rfl, Outline.open_succ_addAt _ h⟩

/-- An element that is refined right after it was added is the element of the
    longer compound. -/
theorem refineLast_addElement {d : Nat} (c extra : Compound) (h : Outline.Open d p.outline) :
    (p.addElement d c).refineLast extra = p.addElement d (c ++ extra) := by
  simp only [refineLast, addElement]
  rw [Outline.modifyAt_addAt _ _ h, PreviewLine.merge, Element.ofCompound, Element.merge_merge]
  rfl

/-- A link adds an element at a place that depends on the combinator only, and
    where there is room. -/
theorem pushLink_eq_addElement (h : p.Ready) (c : Combinator) :
    ∃ (q : Preview) (d : Nat), Outline.Open d q.outline ∧
      ∀ compound, p.pushLink (c, compound) = q.addElement d compound := by
  obtain ⟨d, hd, hopen⟩ := h
  simp only [pushLink, hd]
  cases c with
  | descendant =>
    exact ⟨p.addGap (d + 1) ellipsis, d + 2, Outline.open_succ_addAt _ hopen, fun _ => rfl⟩
  | child => exact ⟨p, d + 1, hopen, fun _ => rfl⟩
  | nextSibling => exact ⟨p, d, hopen.of_succ, fun _ => rfl⟩
  | subsequentSibling =>
    -- The gap stands beside the element, so there is room beside the gap too.
    exact ⟨p.addGap d verticalEllipsis, d, (Outline.open_succ_addAt _ hopen.of_succ).of_succ,
      fun _ => rfl⟩

theorem Ready.pushLink (h : p.Ready) (link : Combinator × Compound) : (p.pushLink link).Ready := by
  obtain ⟨q, d, hopen, hq⟩ := pushLink_eq_addElement h link.1
  rw [hq link.2]
  exact ready_addElement _ hopen

theorem Ready.pushLinks (h : p.Ready) (links : List (Combinator × Compound)) :
    (links.foldl Preview.pushLink p).Ready := by
  induction links generalizing p with
  | nil => exact h
  | cons link links ih => exact ih (h.pushLink link)

theorem ready_addElement_empty (c : Compound) : (empty.addElement 0 c).Ready :=
  ready_addElement c trivial

/-- A push into the empty preview leaves an element at the lower end. -/
theorem ready_push (s : Selector) : (empty.push s).Ready := (ready_addElement_empty _).pushLinks _

/-- To refine the last element of a selector is to draw the selector with the
    longer last compound. -/
theorem refineLast_push (s : Selector) (extra : Compound) :
    (empty.push s).refineLast extra = empty.push (s.extendLast extra) := by
  obtain ⟨first, rest⟩ := s
  -- The last element is that of the first compound or that of the last link. Either
  -- way it was added at a place that its compound has no part in.
  rcases List.eq_nil_or_concat rest with rfl | ⟨links, ⟨c, compound⟩, rfl⟩
  · rw [Chain.extendLast_nil]
    exact refineLast_addElement first extra trivial
  · rw [List.concat_eq_append, Chain.extendLast_concat]
    simp only [push, List.foldl_append, List.foldl_cons, List.foldl_nil]
    obtain ⟨q, d, hopen, hq⟩ :=
      pushLink_eq_addElement ((ready_addElement_empty first).pushLinks links) c
    rw [show pushFirst empty first = empty.addElement 0 first from rfl, hq, hq]
    exact refineLast_addElement compound extra hopen

theorem refineLast_withoutAmpersand (p : Preview) (c : Compound) :
    p.refineLast (Compound.withoutAmpersand c) = p.refineLast c := by
  have hmerge : PreviewLine.merge (Compound.withoutAmpersand c) = PreviewLine.merge c := by
    funext line
    cases line with
    | element e => rw [PreviewLine.merge, Element.merge_withoutAmpersand, PreviewLine.merge]
    | gap label => rfl
  rw [refineLast, refineLast, hmerge]

/-- The first compound of a level either refines the last element or is one more
    link. -/
theorem Ready.pushFirst (h : p.Ready) (c : Compound) :
    p.pushFirst c =
      if Compound.hasAmpersand c then p.refineLast c else p.pushLink (.descendant, c) := by
  obtain ⟨d, hd, -⟩ := h
  simp only [Preview.pushFirst, refineLast, Preview.pushLink, hd]

/-- One more level is the selector nested once more. -/
theorem push_push (outer inner : Selector) :
    (empty.push outer).push inner = empty.push (outer.nest inner) := by
  rw [push, (ready_push outer).pushFirst, Selector.nest]
  split_ifs with hamp
  · -- The level goes on in the last compound of the selector around it.
    rw [← refineLast_withoutAmpersand, refineLast_push]
    simp only [push, List.foldl_append]
  · -- Without `&` the first compound is a link like any other.
    simp only [push, List.foldl_append, List.foldl_cons]

/-- Some levels are the resolved selector. -/
theorem ofLevels_eq_push_resolve (s : Selector) (inner : List Selector) :
    ofLevels (s :: inner) = empty.push (Selector.resolve (s :: inner)) := by
  rw [ofLevels, List.foldl_cons, Selector.resolve]
  induction inner generalizing s with
  | nil => rfl
  | cons l inner ih => rw [List.foldl_cons, List.foldl_cons, push_push, ih]

end Preview

/-! ### Weights -/

/-- `&` weighs nothing. -/
theorem Compound.sum_withoutAmpersand (c : Compound) :
    ((Compound.withoutAmpersand c).map Simple.specificity).sum =
      (c.map Simple.specificity).sum := by
  induction c with
  | nil => rfl
  | cons s c ih =>
    cases s with
    | nesting =>
      rw [List.map_cons, List.sum_cons, ← ih, Simple.specificity, zero_add]
      rfl
    | _ => exact congrArg (_ + ·) ih

namespace Selector

/-- A nested selector weighs as the two levels together. -/
theorem specificity_nest (outer inner : Selector) :
    specificity (outer.nest inner) = specificity outer + specificity inner := by
  simp only [specificity_eq_sum_simples, nest]
  split_ifs with hamp
  · -- The simples are those of the refined selector, then those of the other compounds.
    have hsimples : Chain.simples ⟨(outer.extendLast (Compound.withoutAmpersand inner.first)).first,
        (outer.extendLast (Compound.withoutAmpersand inner.first)).rest ++ inner.rest⟩ =
        outer.simples ++ (Compound.withoutAmpersand inner.first ++ inner.rest.flatMap Prod.snd) := by
      rw [← List.append_assoc, ← Chain.simples_extendLast, Chain.simples, Chain.simples,
        List.flatMap_append, List.append_assoc]
    rw [hsimples, List.map_append, List.sum_append, List.map_append, List.sum_append,
      Compound.sum_withoutAmpersand, ← List.sum_append, ← List.map_append]
    rfl
  · rw [← List.sum_append, ← List.map_append]
    simp only [Chain.simples, List.flatMap_append, List.flatMap_cons, List.append_assoc]

/-- Some levels weigh together as the resolved selector. -/
theorem sum_specificity_eq_resolve (s : Selector) (inner : List Selector) :
    Specificity.sum ((s :: inner).map specificity) = specificity (resolve (s :: inner)) := by
  rw [Specificity.sum_eq, resolve]
  induction inner generalizing s with
  | nil => rw [List.map_singleton, List.sum_singleton, List.foldl_nil]
  | cons l inner ih =>
    rw [List.foldl_cons, ← ih, List.map_cons, List.map_cons, List.map_cons, specificity_nest,
      List.sum_cons, List.sum_cons, List.sum_cons, add_assoc]

end Selector

/-! ### Both -/

/-- Nested rules mean the flat selector: pushed one after another, some levels
    draw what their resolved selector draws, and they weigh together what it
    weighs. So the report on a selector is that of the resolved selector of its
    context and itself. -/
theorem nested_rules_eq_resolved :
    (∀ (s : Selector) (inner : List Selector),
      (Preview.ofLevels (s :: inner)).render =
        (Preview.empty.push (Selector.resolve (s :: inner))).render ∧
      Specificity.sum ((s :: inner).map Selector.specificity) =
        Selector.specificity (Selector.resolve (s :: inner))) ∧
    ∀ (source : String) (dialect : Dialect) (f : Focus),
      let around := (Nesting.context source dialect f).map fun g => Selector.read source g.node
      let resolved := Selector.resolve (around ++ [Selector.read source f.node])
      (Report.ofSelector source dialect f).preview = (Preview.empty.push resolved).render ∧
        (Report.ofSelector source dialect f).total = Selector.specificity resolved := by
  refine ⟨fun s inner => ⟨?_, Selector.sum_specificity_eq_resolve s inner⟩,
    fun source dialect f => ?_⟩
  · rw [Preview.ofLevels_eq_push_resolve]
  · intro around resolved
    -- The selector itself is a level, so there is an outermost one.
    obtain ⟨s, inner, hlevels⟩ :=
      List.exists_cons_of_ne_nil (List.append_ne_nil_of_right_ne_nil around
        (List.cons_ne_nil (Selector.read source f.node) []))
    have hresolved : resolved = Selector.resolve (s :: inner) := congrArg Selector.resolve hlevels
    constructor
    · rw [hresolved, ← Preview.ofLevels_eq_push_resolve, ← hlevels]
      rfl
    · rw [hresolved, ← Selector.sum_specificity_eq_resolve, ← hlevels]
      rfl

end StyleLens
