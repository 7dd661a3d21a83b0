import StyleLens.Document
import StyleLens.Proofs.Text.Exact

/-!
# Documents under changes

A change makes one text of another (`Text.change`). Changes are applied to a
document as they are to its text, in order, and of the rest of the document only
the version and the tree are theirs to set:

* `Text.Exact.replace?_eq`: a range between places that positions can name is replaced
  between these places;
* `Document.editAll_eq`: after some changes, the tree is that of the old text
  only if the text is the old one too;
* `Document.update_eq`: so a document that had the tree of its text has it again.
-/

namespace StyleLens

/-- A text with a change applied to it. A range on lines that do not exist leaves
    the text as it is. -/
def Text.change (text : String) (c : Change) : String :=
  match c.range with
  | none => c.text
  | some r => (Text.replace? text r c.text).getD text

/-- A range between two exact places of `s` is replaced between these places, also in a text
    that agrees with `s` only up to there. -/
theorem Text.Exact.replace?_eq {s t u : String} {i j : Nat} {rest : List Char} (hi : Exact s i)
    (hj : Exact s j) (hs : byteLength s.toList < UInt32.size) (hij : i ≤ j)
    (ht : t.toList = takeBytes j s.toList ++ rest) :
    replace? t (rangeOfBytes s i j) u = some (splice t i j u) := by
  have hfront : t.toList = takeBytes i s.toList ++ (sliceBytes s.toList i j ++ rest) := by
    rw [ht, ← takeBytes_append_sliceBytes hi.1 hij, List.append_assoc]
  simp only [replace?, rangeOfBytes, hi.byteOfPosition?_eq hs hfront, hj.byteOfPosition?_eq hs ht,
    Option.bind_eq_bind, Option.bind_some, Option.pure_def, Nat.max_eq_right hij]

namespace Document

variable (d : Document)

/-- A change is applied to the text and takes the tree away, or it does nothing. -/
theorem edit_eq (c : Change) :
    ∃ tree, (d.edit c).1 = ⟨d.uri, d.dialect, d.version, Text.change d.content c, tree⟩ ∧
      (tree = none ∨ tree = d.tree ∧ Text.change d.content c = d.content) := by
  rw [edit, Text.change]
  cases c.range with
  | none => exact ⟨none, rfl, .inl rfl⟩
  | some r =>
    dsimp only
    cases Text.replace? d.content r c.text with
    | none => exact ⟨d.tree, rfl, .inr ⟨rfl, rfl⟩⟩
    | some content => exact ⟨none, rfl, .inl rfl⟩

/-- Some changes are applied to the text in order. If the tree is still there, then
    the text is the one that it is the tree of. -/
theorem editAll_eq (cs : List Change) :
    ∃ tree, (d.editAll cs).1 =
        ⟨d.uri, d.dialect, d.version, cs.foldl Text.change d.content, tree⟩ ∧
      (tree = none ∨ tree = d.tree ∧ cs.foldl Text.change d.content = d.content) := by
  induction cs generalizing d with
  | nil => exact ⟨d.tree, rfl, .inr ⟨rfl, rfl⟩⟩
  | cons c cs ih =>
    obtain ⟨tree, hedit, htree⟩ := edit_eq d c
    obtain ⟨tree', hall, htree'⟩ := ih (d.edit c).1
    rw [hedit] at hall htree'
    refine ⟨tree', by rw [editAll, hedit]; exact hall, ?_⟩
    rw [List.foldl_cons]
    rcases htree' with hnone | ⟨rfl, hsame⟩
    · exact .inl hnone
    · -- The later changes did nothing, so it hangs on the first one.
      rcases htree with hnone | ⟨hold, hsame'⟩
      · exact .inl hnone
      · exact .inr ⟨hold, hsame.trans hsame'⟩

/-- A document with the tree of its text has it again after some changes. -/
theorem update_eq {parse : Parser} {d : Document} (hd : d.tree = parse d.content)
    (cs : List Change) (version : Int) :
    (d.update parse cs version).1 =
      ⟨d.uri, d.dialect, version, cs.foldl Text.change d.content,
        parse (cs.foldl Text.change d.content)⟩ := by
  obtain ⟨tree, hall, htree⟩ := editAll_eq ⟨d.uri, d.dialect, version, d.content, d.tree⟩ cs
  simp only [update, hall]
  split
  · rfl
  · next hnone =>
    -- No change was applied, and the tree is still that of the text.
    rcases htree with rfl | ⟨rfl, hsame⟩
    · exact absurd rfl hnone
    · rw [hsame, hd]

end Document

end StyleLens
