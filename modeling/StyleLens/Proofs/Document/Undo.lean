import StyleLens.Proofs.Document.Changes
import StyleLens.Proofs.Document.Splice
import StyleLens.Proofs.Text.RoundTrip

/-!
# Changes undone

A change of a range leaves what stands in front of it and behind it. So it is undone by
a change of what was put there, whose range is told by the positions of its ends in the
new text. The lines of the new text are others, as the text that was taken away and the
one that was put there may have line feeds. But a position is counted along the text in
front of it alone:

* `Text.positionOfByte_of_front`: the change starts at the same position in both texts;
* `Text.replace?_middle`: where there are no carriage returns, any part of a text is
  replaced through the positions of its ends.
-/

namespace StyleLens

namespace Text

variable {s s' p m q t : String} {front : List Char}

/-- Without carriage returns, positions name every place between two characters. -/
theorem exact_of_front (hreturn : '\r' ∉ s.toList) (hfront : front <+: s.toList) :
    Exact s (byteLength front) :=
  ⟨isBoundary_iff.2 ⟨front, hfront, rfl⟩, not_mem_lastLine_takeBytes hreturn⟩

/-- Texts with a common head have the same position where it ends. -/
theorem positionOfByte_of_front (h : front <+: s.toList) (h' : front <+: s'.toList) :
    positionOfByte s (byteLength front) = positionOfByte s' (byteLength front) := by
  rw [positionOfByte_eq, positionOfByte_eq, takeBytes_byteLength h, takeBytes_byteLength h']

/-- The middle part of a text is replaced through the positions of its ends. -/
theorem replace?_middle (hs : byteLength s.toList < UInt32.size) (hreturn : '\r' ∉ s.toList)
    (hparts : s = p ++ t ++ q) :
    replace? s (rangeOfBytes s (byteLength p.toList) (byteLength p.toList + byteLength t.toList))
      m = some (p ++ m ++ q) := by
  have hstart : s.toList = p.toList ++ (t.toList ++ q.toList) := by
    rw [hparts, String.toList_append, String.toList_append, List.append_assoc]
  have hstop : s.toList = (p.toList ++ t.toList) ++ q.toList := by
    rw [hstart, List.append_assoc]
  have hi := exact_of_front hreturn ⟨_, hstart.symm⟩
  have hj := exact_of_front hreturn ⟨_, hstop.symm⟩
  have hij : byteLength p.toList ≤ byteLength (p.toList ++ t.toList) :=
    byteLength_mono (List.prefix_append _ _)
  have hsplice : splice s (byteLength p.toList) (byteLength (p.toList ++ t.toList)) m =
      p ++ m ++ q := by
    rw [splice, hstop, dropBytes_append, ← hstop, hstart, takeBytes_append, ← String.toList_append,
      ← String.toList_append, String.ofList_toList]
  rw [← byteLength_append, hi.replace?_eq hj hs hij (takeBytes_append_dropBytes _ _).symm, hsplice]

end Text

namespace Document

open Text

/-- A change of a text without carriage returns, by one without them, is undone through
    positions. It takes out a part `m` of the text and puts `t` there, where its range
    starts. However the two texts are split in this way, the change of `t` back to `m`, with
    its range told by positions in the new text, makes the old text again; and the start of
    this range is the same position in both texts. -/
theorem change_is_undone_through_positions {d new : Document} {r : Range} {t : String}
    (hlines : HasLines d.content r) (hreturn : '\r' ∉ d.content.toList) (ht : '\r' ∉ t.toList)
    (hnew : (d.edit ⟨some r, t⟩).1 = new) (hsize : byteLength new.content.toList < UInt32.size) :
    (∃ p m q, d.content = p ++ m ++ q ∧ new.content = p ++ t ++ q ∧
      byteOfPosition? d.content r.start = some (byteLength p.toList)) ∧
    ∀ p m q, d.content = p ++ m ++ q → new.content = p ++ t ++ q →
      new.edit ⟨some (rangeOfBytes new.content (byteLength p.toList)
        (byteLength p.toList + byteLength t.toList)), m⟩ = (d.withContent d.content, []) ∧
      positionOfByte d.content (byteLength p.toList) =
        positionOfByte new.content (byteLength p.toList) := by
  obtain ⟨i, j, content, hreplace, hsplices⟩ := exists_splices t hlines
  have hedit : new = d.withContent content := by
    rw [← hnew]
    simp only [edit, hreplace]
  refine ⟨?_, fun p m q hold hparts => ⟨?_, ?_⟩⟩
  · obtain ⟨p, m, q, hold, hparts, hp, -⟩ := hsplices.parts
    exact ⟨p, m, q, hold, by rw [hedit]; exact hparts, by rw [hp]; exact hsplices.start_eq⟩
  · have hreturn' : '\r' ∉ new.content.toList := by
      rw [hold] at hreturn
      rw [hparts]
      simp only [String.toList_append, List.mem_append, not_or] at hreturn ⊢
      exact ⟨⟨hreturn.1.1, ht⟩, hreturn.2⟩
    simp only [edit, replace?_middle hsize hreturn' hparts, ← hold]
    rw [hedit]
    rfl
  · apply positionOfByte_of_front
    · rw [hold, String.toList_append, String.toList_append, List.append_assoc]
      exact List.prefix_append _ _
    · rw [hparts, String.toList_append, String.toList_append, List.append_assoc]
      exact List.prefix_append _ _

/-- Three lines, with a character outside the basic plane on the first one. -/
def linesBefore : Document := create "file:///a.css" .css "a😀\nb\nc" 1

/-- The same with the second line and what is around it changed. -/
def linesAfter : Document := create "file:///a.css" .css "ax\n\nyc" 1

/-- Two line feeds are taken out, and two others are put there. -/
theorem change_is_undone_through_positions_lines :
    (linesBefore.edit ⟨some ⟨⟨0, 1⟩, ⟨2, 0⟩⟩, "x\n\ny"⟩).1 = linesAfter ∧
      (linesAfter.edit ⟨some ⟨⟨0, 1⟩, ⟨2, 1⟩⟩, "😀\nb\n"⟩).1.content = "a😀\nb\nc" ∧
      positionOfByte "a😀\nb\nc" 1 = positionOfByte "ax\n\nyc" 1 := by
  have hreplace : replace? "a😀\nb\nc" ⟨⟨0, 1⟩, ⟨2, 0⟩⟩ "x\n\ny" = some "ax\n\nyc" := by decide
  have hnew : (linesBefore.edit ⟨some ⟨⟨0, 1⟩, ⟨2, 0⟩⟩, "x\n\ny"⟩).1 = linesAfter := by
    simp only [linesBefore, linesAfter, edit, create, hreplace]
    rfl
  have hrange : rangeOfBytes "ax\n\nyc" 1 5 = ⟨⟨0, 1⟩, ⟨2, 1⟩⟩ := by decide
  obtain ⟨hedit, hstart⟩ := (change_is_undone_through_positions (by decide) (by decide) (by decide)
    hnew (by decide)).2 "a" "😀\nb\n" "c" (by decide) (by decide)
  exact ⟨hnew, hrange ▸ congrArg (·.1.content) hedit, hstart⟩

end Document

end StyleLens
