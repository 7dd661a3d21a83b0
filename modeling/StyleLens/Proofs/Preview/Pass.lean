import Mathlib.Data.List.ModifyLast
import StyleLens.Preview.Basic
import StyleLens.Proofs.Preview.Outline

/-!
# Previews line by line

An element is only ever added at the lower end of a preview, so the lines of the
preview come in the order in which they are made. The whole of it can be written
down in one pass over the compounds that keeps no more than the depth of the
last element (`Pass.step`).

* `Pass.ofLevels`: the pass over the compounds of some levels;
* `Preview.Drawn`: a preview shows the lines of a pass, and its last element was
  the last one added. Each compound keeps it so (`Preview.Drawn.pushFirst`,
  `Preview.Drawn.pushLink`), and with them each run (`Preview.drawn_ofLevels`);
* `Preview.render_eq_text`: the text of a preview is that of the pass.
-/

namespace StyleLens

/-! ### The pass -/

/-- The lines written so far, each with its depth, and the depth of the last
    element, if there is one. -/
structure Pass where
  lines : List (Nat × PreviewLine)
  depth : Option Nat

namespace Pass

/-- Nothing is written yet. -/
def empty : Pass := ⟨[], none⟩

/-- The lines that a combinator leaves open, behind an element at depth `d`, and the
    depth of the element that it leads to. -/
def reach (d : Nat) : Combinator → List (Nat × PreviewLine) × Nat
  | .descendant => ([(d + 1, .gap "…")], d + 2)
  | .child => ([], d + 1)
  | .nextSibling => ([], d)
  | .subsequentSibling => ([(d, .gap "⋮")], d)

/-- A pass with the element of a compound, behind the lines that a combinator
    leaves open. -/
def write (p : Pass) (d : Nat) (c : Combinator) (compound : Compound) : Pass :=
  let next := reach d c
  ⟨p.lines ++ next.1 ++ [(next.2, .element (.ofCompound compound))], some next.2⟩

/-- The next compound, with the combinator in front of it unless it starts a level.
    The first of all is written at depth zero. One that starts a level is a
    descendant, but with `&` it is merged into the last element. -/
def step (p : Pass) (link : Option Combinator × Compound) : Pass :=
  match p.depth, link with
  | none, (_, compound) => ⟨p.lines ++ [(0, .element (.ofCompound compound))], some 0⟩
  | some d, (some c, compound) => p.write d c compound
  | some d, (none, compound) =>
    if compound.hasAmpersand then
      ⟨p.lines.modifyLast fun (d, line) => (d, line.merge compound), some d⟩
    else p.write d .descendant compound

/-- The pass over the compounds of some levels, outermost level first. -/
def ofLevels (levels : List Selector) : Pass := (levels.flatMap Chain.compounds).foldl step empty

/-- The text of a pass: its lines, each behind two blanks for each level of depth. -/
def text (p : Pass) : String :=
  "\n".intercalate (p.lines.map fun (d, line) =>
    String.ofList (List.replicate (2 * d) ' ') ++ line.render)

variable {p : Pass} {d : Nat} {compound : Compound}

theorem step_link (hd : p.depth = some d) (c : Combinator) (compound : Compound) :
    p.step (some c, compound) = p.write d c compound := by
  simp only [step, hd]

theorem step_merged (hd : p.depth = some d) (h : Compound.hasAmpersand compound) :
    p.step (none, compound) =
      ⟨p.lines.modifyLast fun (d, line) => (d, line.merge compound), some d⟩ := by
  simp only [step, hd, h, if_true]

theorem step_level (hd : p.depth = some d) (h : ¬Compound.hasAmpersand compound) :
    p.step (none, compound) = p.write d .descendant compound := by
  simp only [step, hd, h, Bool.false_eq_true, if_false]

/-- After a compound, there is a last element. -/
theorem isSome_depth_step (p : Pass) (link : Option Combinator × Compound) :
    (p.step link).depth.isSome := by
  obtain ⟨c, compound⟩ := link
  cases hd : p.depth with
  | none => simp only [step, hd, Option.isSome_some]
  | some d =>
    cases c with
    | some c => rw [step_link hd]; rfl
    | none =>
      by_cases h : Compound.hasAmpersand compound
      · rw [step_merged hd h]; rfl
      · rw [step_level hd h]; rfl

end Pass

/-! ### Previews and passes -/

namespace Preview

open Outline

/-- A preview shows the lines of a pass, and the last element of both was added last. -/
structure Drawn (p : Preview) (q : Pass) : Prop where
  lines : entries 0 p.outline = q.lines
  depth : p.depth = q.depth
  last : ∀ d ∈ p.depth, ∃ e os, Open d os ∧ p.outline = addAt d (.element e) os

variable {p : Preview} {q : Pass}

theorem drawn_empty : Drawn empty .empty := ⟨rfl, rfl, fun _ h => nomatch h⟩

/-- Below the last element, there is room. -/
theorem Drawn.open_succ (h : Drawn p q) {d : Nat} (hd : p.depth = some d) :
    Open (d + 1) p.outline := by
  obtain ⟨e, os, hopen, houtline⟩ := h.last d hd
  rw [houtline]
  exact open_succ_addAt _ hopen

/-- An element that is added where there is room is the next line. -/
theorem Drawn.addElement (hlines : entries 0 p.outline = q.lines) {d : Nat}
    (hopen : Open d p.outline) (c : Compound) :
    Drawn (p.addElement d c) ⟨q.lines ++ [(d, .element (.ofCompound c))], some d⟩ where
  lines := by rw [Preview.addElement, entries_addAt 0 _ hopen, hlines, Nat.zero_add]
  depth := rfl
  last _ hd := by
    obtain rfl := Option.some.inj hd
    exact ⟨_, _, hopen, rfl⟩

/-- A compound that is placed behind a combinator is written by the pass. -/
theorem Drawn.place (h : Drawn p q) {d : Nat} (hd : p.depth = some d) (c : Combinator)
    (compound : Compound) : Drawn (p.place d c compound) (q.write d c compound) := by
  have hopen := h.open_succ hd
  have hgap : ∀ {k label}, Open k p.outline →
      entries 0 (p.addGap k label).outline = q.lines ++ [(k, .gap label)] := fun hk => by
    rw [addGap, entries_addAt 0 _ hk, h.lines, Nat.zero_add]
  cases c with
  | descendant =>
    exact Drawn.addElement (q := ⟨q.lines ++ [(d + 1, .gap "…")], none⟩) (hgap hopen)
      (open_succ_addAt _ hopen) compound
  | child =>
    simp only [Pass.write, Pass.reach, List.append_nil]
    exact Drawn.addElement h.lines hopen compound
  | nextSibling =>
    simp only [Pass.write, Pass.reach, List.append_nil]
    exact Drawn.addElement h.lines hopen.of_succ compound
  | subsequentSibling =>
    -- The gap stands beside the element, so there is room beside the gap too.
    exact Drawn.addElement (q := ⟨q.lines ++ [(d, .gap "⋮")], none⟩) (hgap hopen.of_succ)
      (open_succ_addAt _ hopen.of_succ).of_succ compound

theorem Drawn.pushLink (h : Drawn p q) (c : Combinator) (compound : Compound) :
    Drawn (p.pushLink (c, compound)) (q.step (some c, compound)) := by
  rw [Preview.pushLink]
  cases hd : p.depth with
  | none =>
    simp only [Pass.step, ← h.depth, hd]
    exact Drawn.addElement h.lines (show Open 0 p.outline from trivial) compound
  | some d =>
    rw [Pass.step_link (h.depth.symm.trans hd)]
    exact h.place hd c compound

/-- The first compound of a level. With `&`, the last element of the preview is the
    last line of the pass, and both are merged with the compound. -/
theorem Drawn.pushFirst (h : Drawn p q) (compound : Compound) :
    Drawn (p.pushFirst compound) (q.step (none, compound)) := by
  rw [Preview.pushFirst]
  cases hd : p.depth with
  | none =>
    simp only [Pass.step, ← h.depth, hd]
    exact Drawn.addElement h.lines (show Open 0 p.outline from trivial) compound
  | some d =>
    dsimp only
    by_cases hamp : Compound.hasAmpersand compound
    · rw [if_pos hamp, Pass.step_merged (h.depth.symm.trans hd) hamp]
      obtain ⟨e, os, hopen, houtline⟩ := h.last d hd
      have hlines : q.lines = entries 0 os ++ [(d, .element e)] := by
        rw [← h.lines, houtline, entries_addAt 0 _ hopen, Nat.zero_add]
      have hmerged : modifyAt d (PreviewLine.merge compound) p.outline =
          addAt d (.element (e.merge compound)) os := by
        rw [houtline, modifyAt_addAt _ _ hopen, PreviewLine.merge]
      refine ⟨?_, rfl, fun d' hd' => ?_⟩
      · dsimp only
        rw [hmerged, entries_addAt 0 _ hopen, hlines, List.modifyLast_concat, Nat.zero_add]
        rfl
      · obtain rfl := Option.some.inj hd'
        exact ⟨_, os, hopen, hmerged⟩
    · rw [if_neg hamp, Pass.step_level (h.depth.symm.trans hd) hamp]
      exact h.place hd .descendant compound

/-- The compounds of a level, one after another. -/
theorem Drawn.push (h : Drawn p q) (s : Selector) :
    Drawn (p.push s) (s.compounds.foldl Pass.step q) := by
  rw [Preview.push, Chain.compounds, List.foldl_cons, List.foldl_map]
  exact List.foldl_rel (h.pushFirst s.first) fun link _ _ _ h => h.pushLink link.1 link.2

/-- Some levels, one after another. -/
theorem drawn_ofLevels (levels : List Selector) : Drawn (ofLevels levels) (.ofLevels levels) := by
  rw [ofLevels, Pass.ofLevels, List.foldl_flatMap]
  exact List.foldl_rel drawn_empty fun s _ _ _ h => h.push s

/-- Two blanks for each level of depth. -/
theorem join_replicate_blanks (d : Nat) :
    String.join (List.replicate d "  ") = String.ofList (List.replicate (2 * d) ' ') := by
  induction d with
  | zero => rfl
  | succ d ih =>
    rw [List.replicate_succ, String.join_cons, ih, Nat.mul_succ, Nat.add_comm,
      ← List.replicate_append_replicate, String.ofList_append]
    rfl

/-- The text of a preview is that of the pass over its levels. -/
theorem render_eq_text (levels : List Selector) :
    (ofLevels levels).render = (Pass.ofLevels levels).text := by
  rw [render, (drawn_ofLevels levels).lines, Pass.text]
  congr 1
  refine List.map_congr_left fun entry _ => ?_
  rw [renderLine, join_replicate_blanks]

end Preview

end StyleLens
