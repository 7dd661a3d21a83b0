import StyleLens.Hover.Basic
import StyleLens.Proofs.Subject
import StyleLens.Proofs.Text.Position
import StyleLens.Proofs.Tree.Cursor

/-!
# Hovers cover the document and the cursor

A document has a hover wherever it has a place, as the root of its syntax tree
ends where the text does (`Guide.hoverAtByte?_isSome_iff`). The range of a hover
covers the cursor: the node under the cursor does, and the subject of the node
stands around it (`Guide.range_hoverAtByte?`).
-/

namespace StyleLens.Guide

open Text

variable {g : Guide} {source : String} {tree : Tree} {dialect : Dialect}

/-! ### Where there is a hover -/

/-- There is a hover at every byte up to the end of the tree. -/
theorem hoverAtByte?_isSome_iff (b : Nat) :
    (g.hoverAtByte? source tree dialect b).isSome ↔ b ≤ tree.stop := by
  rw [hoverAtByte?, Option.isSome_map, Focus.under?]
  simp [Focus.root]

/-- There is a hover at every offset up to the end of the text. -/
theorem hoverAtOffset?_isSome_iff (hstop : tree.stop = byteLength source.toList) (o : Nat) :
    (g.hoverAtOffset? source tree dialect o).isSome ↔ o ≤ units source := by
  rw [hoverAtOffset?]
  cases hb : byteOfOffset? source o with
  | none =>
    have hout := (byteOfOffset?_eq_none_iff source o).1 hb
    simp only [Option.bind_none, Option.isSome_none, Bool.false_eq_true, false_iff]
    omega
  | some b =>
    have hin : ¬units source < o := fun h => by
      rw [(byteOfOffset?_eq_none_iff source o).2 h] at hb
      cases hb
    rw [Option.bind_some, hoverAtByte?_isSome_iff, hstop]
    exact ⟨fun _ => by omega, fun _ => le_of_seekOffset? hb⟩

/-- There is a hover at every position on a line of the text. -/
theorem hoverAt?_isSome_iff (hstop : tree.stop = byteLength source.toList) (p : Position) :
    (g.hoverAt? source tree dialect p).isSome ↔ p.line.toNat < lineCount source := by
  rw [← byteOfPosition?_isSome_iff, hoverAt?, offsetOfPosition?]
  cases byteOfPosition? source p with
  | none => rfl
  | some b =>
    rw [Option.map_some, Option.bind_some, hoverAtOffset?_isSome_iff hstop]
    exact ⟨fun _ => rfl, fun _ => offsetOfByte_le_units source b⟩

/-! ### What it covers -/

/-- The range of a hover is in order, and it covers the cursor unless the cursor
    is in front of the tree. -/
theorem range_hoverAtByte? (hnested : tree.Nested) (hsize : byteLength source.toList < UInt32.size)
    {b : Nat} {h : Hover} (hh : g.hoverAtByte? source tree dialect b = some h) :
    h.range.start ≤ h.range.stop ∧
      (tree.start ≤ b → h.range.start ≤ positionOfByte source b ∧
        positionOfByte source b ≤ h.range.stop) := by
  obtain ⟨node, hnode, rfl⟩ := Option.map_eq_some_iff.1 hh
  have hunder : (Focus.root tree).IsUnder b node := Focus.isUnder_of_under? hnested hnode
  -- The subject of the node is a node of the tree, which the node stands below.
  obtain ⟨hsubject, hbelow⟩ := (Subject.climbs_ofFocus source node).atOrBelow hunder.atOrBelow
  have hsubjectNested := hsubject.nested hnested
  obtain ⟨hstart, hstop⟩ := hbelow.inside hsubjectNested
  refine ⟨positionOfByte_mono hsize hsubjectNested.start_le_stop, fun hb => ?_⟩
  have hcovers : node.node.start ≤ b ∧ b ≤ node.node.stop := by
    rcases hunder.touches with rfl | htouches
    · have hstop : b ≤ tree.stop := hoverAtByte?_isSome_iff b |>.1 (Option.isSome_of_eq_some hh)
      exact ⟨hb, hstop⟩
    · exact htouches.2
  exact ⟨positionOfByte_mono hsize (hstart.trans hcovers.1),
    positionOfByte_mono hsize (hcovers.2.trans hstop)⟩

/-- Over a text of less than 2^32 bytes and a tree of it whose ranges nest, there
    is a hover at exactly the offsets up to the end of the text and at exactly the
    positions on lines of the text. Its range is in order, and covers the cursor
    unless the cursor is in front of the tree. -/
theorem hover_total_and_covers_cursor (g : Guide) {source : String} {tree : Tree}
    (dialect : Dialect) (hnested : tree.Nested) (hstop : tree.stop = byteLength source.toList)
    (hsize : byteLength source.toList < UInt32.size) :
    (∀ o, (g.hoverAtOffset? source tree dialect o).isSome ↔ o ≤ units source) ∧
    (∀ p, (g.hoverAt? source tree dialect p).isSome ↔ p.line.toNat < lineCount source) ∧
    ∀ o h, g.hoverAtOffset? source tree dialect o = some h →
      h.range.start ≤ h.range.stop ∧
        ∀ b, byteOfOffset? source o = some b → tree.start ≤ b →
          ∃ p, positionOfOffset? source o = some p ∧ h.range.start ≤ p ∧ p ≤ h.range.stop := by
  refine ⟨hoverAtOffset?_isSome_iff hstop, hoverAt?_isSome_iff hstop, fun o h hh => ?_⟩
  obtain ⟨b, hb, hh⟩ := Option.bind_eq_some_iff.1 hh
  obtain ⟨hordered, hcovers⟩ := range_hoverAtByte? hnested hsize hh
  refine ⟨hordered, fun b' hb' hfront => ⟨positionOfByte source b, ?_, hcovers ?_⟩⟩
  · rw [positionOfOffset?, hb, Option.map_some]
  · obtain rfl : b = b' := Option.some.inj (hb.symm.trans hb')
    exact hfront

/-- A comment with a character outside the basic plane, then a rule. -/
def commentAndRule : String := "/*𝒳*/a\x7b\x7d"

/-- The tree of `commentAndRule`. -/
def commentAndRuleTree : Tree :=
  .node ⟨"stylesheet", true, 0, 11⟩
    [.node ⟨"comment", true, 0, 8⟩ [],
      .node ⟨"rule_set", true, 8, 11⟩
        [.node ⟨"selectors", true, 8, 9⟩ [.node ⟨"tag_name", true, 8, 9⟩ []],
          .node ⟨"block", true, 9, 11⟩
            [.node ⟨"\x7b", false, 9, 10⟩ [], .node ⟨"\x7d", false, 10, 11⟩ []]]]

/-- At the offset inside the surrogate pair, there is a hover over the start of its
    character. -/
theorem hover_total_and_covers_cursor_surrogate :
    commentAndRuleTree.Nested ∧ commentAndRuleTree.stop = byteLength commentAndRule.toList ∧
      byteLength commentAndRule.toList < UInt32.size ∧
      ∃ h, default.hoverAtOffset? commentAndRule commentAndRuleTree .css 3 = some h ∧
        h.range.start ≤ ⟨0, 2⟩ ∧ ⟨0, 2⟩ ≤ h.range.stop := by
  have hnested : commentAndRuleTree.Nested := by decide
  have hstop : commentAndRuleTree.stop = byteLength commentAndRule.toList := by decide
  have hsize : byteLength commentAndRule.toList < UInt32.size := by decide
  obtain ⟨htotal, -, hcovers⟩ := hover_total_and_covers_cursor default .css hnested hstop hsize
  obtain ⟨h, hh⟩ := Option.isSome_iff_exists.1 ((htotal 3).2 (by decide))
  obtain ⟨p, hp, hrange⟩ := (hcovers 3 h hh).2 2 (by decide) (by decide)
  obtain rfl : p = ⟨0, 2⟩ :=
    Option.some.inj (hp.symm.trans (show positionOfOffset? commentAndRule 3 = some ⟨0, 2⟩ by decide))
  exact ⟨hnested, hstop, hsize, h, hh, hrange⟩

end StyleLens.Guide
