import StyleLens.Document
import StyleLens.Proofs.Text.Column
import StyleLens.Proofs.Text.Scan

/-!
# A change as a splice

A change replaces what stands between two bytes, which are found from the positions of
its range, and the text is cut there. A cut inside of a character or past the end is
not possible. But a position leads to the end of a head of the text, however large its
column is (`Text.exists_front_of_position`), and a later position leads to a later
byte (`Text.byteOfPosition?_mono`). So a change is a splice (`Text.Splices`), or else
it does nothing because a line of its range does not exist
(`Document.change_is_splice_or_nothing`).
-/

namespace StyleLens

namespace Text

variable {s : String} {p q : Position} {start l i j : Nat}

/-! ### Bytes of positions -/

/-- The walk to a column ends on its line, at the latest at the first line break. -/
theorem seekColumn_eq_byteLength (cs : List Char) (n : Nat) :
    ∃ part, part <+: firstLine cs ∧ seekColumn cs n = byteLength part := by
  induction cs generalizing n with
  | nil => exact ⟨[], List.nil_prefix, rfl⟩
  | cons c cs ih =>
    rw [seekColumn]
    split_ifs with hstop
    · exact ⟨[], List.nil_prefix, rfl⟩
    · obtain ⟨part, hpart, hseek⟩ := ih (n - charUnits c)
      have hline : firstLine (c :: cs) = c :: firstLine cs := by
        rw [not_or, not_or] at hstop
        exact List.takeWhile_cons_of_pos (decide_eq_true hstop.2)
      refine ⟨c :: part, ?_, by rw [hseek, byteLength_cons]⟩
      rw [hline]
      exact List.cons_prefix_cons.2 ⟨rfl, hpart⟩

/-- A greater column is further along the line. -/
theorem seekColumn_mono (cs : List Char) {m n : Nat} (h : m ≤ n) :
    seekColumn cs m ≤ seekColumn cs n := by
  induction cs generalizing m n with
  | nil => exact le_rfl
  | cons c cs ih =>
    rw [seekColumn, seekColumn]
    split_ifs with hm hn hn
    · exact le_rfl
    · exact Nat.zero_le _
    · -- The walk to the greater column does not end before the other one does.
      refine absurd hn fun hn => hm ?_
      rcases hn with hn | hn
      · exact .inl (by omega)
      · exact .inr hn
    · exact Nat.add_le_add_left (ih (Nat.sub_le_sub_right h _)) _

/-- As many line feeds are in front of a line as its number says. -/
theorem count_takeBytes_of_line (hline : (lineStarts s.toList)[l]? = some start) :
    (takeBytes start s.toList).count '\n' = l := by
  obtain ⟨above, rest, hs, hstart, hlength⟩ := exists_split_of_line hline
  have hlines := length_lineStarts above
  rw [lineStarts, List.length_cons, hlength, placeAfter_fst] at hlines
  rw [Nat.zero_add] at hstart
  rw [hs, hstart, takeBytes_append]
  exact (Nat.succ.inj hlines).symm

/-- A position on a line leads to the end of a head of the text, which ends on the line and
    not past its first line break. -/
theorem exists_front_of_position (hline : (lineStarts s.toList)[p.line.toNat]? = some start) :
    ∃ front, front <+: s.toList ∧ byteOfPosition? s p = some (byteLength front) ∧
      front.count '\n' = p.line.toNat ∧ start ≤ byteLength front ∧
      byteLength front ≤ start + byteLength (firstLine (dropBytes start s.toList)) := by
  have hcount := count_takeBytes_of_line hline
  obtain ⟨above, rest, hs, rfl, hbyte⟩ := byteOfPosition?_eq hline
  obtain ⟨part, hpart, hseek⟩ := seekColumn_eq_byteLength rest p.character.toNat
  rw [hs, takeBytes_append] at hcount
  have hfeed : '\n' ∉ part := fun h => (no_break_of_mem_firstLine (hpart.subset h)).1 rfl
  refine ⟨above ++ part, ?_, ?_, ?_, ?_, ?_⟩
  · rw [hs, List.prefix_append_right_inj]
    exact hpart.trans (List.takeWhile_prefix _)
  · rw [hbyte, hseek, byteLength_append]
  · rw [List.count_append, hcount, List.count_eq_zero.2 hfeed, Nat.add_zero]
  · rw [byteLength_append]
    exact Nat.le_add_right _ _
  · rw [byteLength_append, hs, dropBytes_append]
    exact Nat.add_le_add_left (byteLength_mono hpart) _

/-- A later position leads to a later byte. -/
theorem byteOfPosition?_mono (h : p ≤ q) (hi : byteOfPosition? s p = some i)
    (hj : byteOfPosition? s q = some j) : i ≤ j := by
  obtain ⟨start, hstart, hi'⟩ := Option.map_eq_some_iff.1 hi
  obtain ⟨start', hstart', hj'⟩ := Option.map_eq_some_iff.1 hj
  rcases h with hlt | ⟨hline, hcolumn⟩
  · -- The head that ends on the later line has more line feeds, so it is the longer one.
    obtain ⟨front, hfront, hbyte, hcount, -⟩ := exists_front_of_position hstart
    obtain ⟨front', hfront', hbyte', hcount', -⟩ := exists_front_of_position hstart'
    cases hi.symm.trans hbyte
    cases hj.symm.trans hbyte'
    rcases List.prefix_or_prefix_of_prefix hfront hfront' with hle | hge
    · exact byteLength_mono hle
    · have hfeeds := hge.count_le '\n'
      rw [hcount, hcount', ← UInt32.le_iff_toNat_le] at hfeeds
      exact absurd hlt (UInt32.not_lt.2 hfeeds)
  · rw [hline] at hstart hi'
    cases hstart.symm.trans hstart'
    rw [← hi', ← hj']
    exact Nat.add_le_add_left (seekColumn_mono _ hcolumn) _

/-! ### Slices -/

/-- There is a slice between two boundaries. -/
theorem slice?_eq_some (hij : i ≤ j) (hi : IsBoundary s.toList i) (hj : IsBoundary s.toList j) :
    slice? s i j = some (String.ofList (sliceBytes s.toList i j)) := if_pos ⟨hij, hi, hj⟩

theorem isBoundary_zero (cs : List Char) : IsBoundary cs 0 :=
  isBoundary_iff.2 ⟨[], List.nil_prefix, rfl⟩

theorem isBoundary_byteLength (cs : List Char) : IsBoundary cs (byteLength cs) :=
  isBoundary_iff.2 ⟨cs, List.prefix_rfl, rfl⟩

theorem IsBoundary.max {cs : List Char} (hi : IsBoundary cs i) (hj : IsBoundary cs j) :
    IsBoundary cs (max i j) := by
  rcases Nat.le_total i j with hle | hle
  · rwa [Nat.max_eq_right hle]
  · rwa [Nat.max_eq_left hle]

theorem isBoundary_of_line (hline : (lineStarts s.toList)[l]? = some start) :
    IsBoundary s.toList start := by
  obtain ⟨above, rest, hs, rfl, -⟩ := exists_split_of_line hline
  rw [Nat.zero_add]
  exact isBoundary_iff.2 ⟨above, ⟨rest, hs.symm⟩, rfl⟩

/-- A line can be cut out of its text: from its start to that of the next line, or to the
    end of the text. -/
theorem exists_slice_of_line (hline : (lineStarts s.toList)[l]? = some start) :
    ∃ line, slice? s start ((lineStarts s.toList).getD (l + 1) (byteLength s.toList)) =
      some line := by
  rw [List.getD_eq_getElem?_getD]
  cases hnext : (lineStarts s.toList)[l + 1]? with
  | none =>
    have hle : start ≤ byteLength s.toList := le_of_mem_lineStarts (List.mem_of_getElem? hline)
    exact ⟨_, slice?_eq_some hle (isBoundary_of_line hline) (isBoundary_byteLength _)⟩
  | some next =>
    obtain ⟨hl, rfl⟩ := List.getElem?_eq_some_iff.1 hline
    obtain ⟨hl', rfl⟩ := List.getElem?_eq_some_iff.1 hnext
    have hlt := List.pairwise_iff_getElem.1 (pairwise_lineStarts s.toList) l (l + 1) hl hl'
      (Nat.lt_succ_self l)
    exact ⟨_, slice?_eq_some hlt.le (isBoundary_of_line hline) (isBoundary_of_line hnext)⟩

/-- What stands in front of a boundary. -/
theorem slice?_front (hi : IsBoundary s.toList i) :
    slice? s 0 i = some (String.ofList (takeBytes i s.toList)) := by
  rw [slice?_eq_some (Nat.zero_le i) (isBoundary_zero _) hi, sliceBytes, dropBytes_zero,
    Nat.sub_zero]

/-- What stands behind a boundary. -/
theorem slice?_back (hj : IsBoundary s.toList j) :
    slice? s j (byteLength s.toList) = some (String.ofList (dropBytes j s.toList)) := by
  obtain ⟨front, ⟨rest, hs⟩, rfl⟩ := isBoundary_iff.1 hj
  have hle : byteLength front ≤ byteLength s.toList := byteLength_mono ⟨rest, hs⟩
  rw [slice?_eq_some hle hj (isBoundary_byteLength _), sliceBytes, ← hs, dropBytes_append,
    byteLength_append, Nat.add_sub_cancel_left, takeBytes_byteLength List.prefix_rfl]

/-! ### Splices -/

/-- `new` is `s` with `t` in place of what stands between the bytes `i` and `j`, to which a
    range leads: the text is cut at two boundaries. The first one is where the range starts,
    on its line and not past the first line break there. The second one is where the range
    ends, or the same as the first if that is further up. -/
structure Splices (s : String) (r : Range) (t new : String) (i j : Nat) : Prop where
  start_le_stop : i ≤ j
  stop_le_length : j ≤ byteLength s.toList
  parts : ∃ front middle back, s = front ++ middle ++ back ∧ new = front ++ t ++ back ∧
    byteLength front.toList = i ∧ byteLength (front ++ middle).toList = j ∧
    slice? s 0 i = some front ∧ slice? s j (byteLength s.toList) = some back
  start_eq : byteOfPosition? s r.start = some i
  on_line : ∃ start, (lineStarts s.toList)[r.start.line.toNat]? = some start ∧ start ≤ i ∧
    i ≤ start + byteLength (firstLine (dropBytes start s.toList))
  stop_eq : r.start ≤ r.stop → byteOfPosition? s r.stop = some j
  stop_eq_start : ∀ k, byteOfPosition? s r.stop = some k → k < i → j = i

/-- The lines on which a range starts and ends exist. -/
def HasLines (s : String) (r : Range) : Prop :=
  r.start.line.toNat < lineCount s ∧ r.stop.line.toNat < lineCount s

instance (s : String) (r : Range) : Decidable (HasLines s r) := inferInstanceAs (Decidable (_ ∧ _))

variable {r : Range} {t : String}

/-- A text that is spliced between two boundaries is cut there. -/
theorem exists_parts_of_splice (hij : i ≤ j) (hi : IsBoundary s.toList i)
    (hj : IsBoundary s.toList j) :
    ∃ front middle back, s = front ++ middle ++ back ∧ splice s i j t = front ++ t ++ back ∧
      byteLength front.toList = i ∧ byteLength (front ++ middle).toList = j ∧
      slice? s 0 i = some front ∧ slice? s j (byteLength s.toList) = some back := by
  have hmiddle := takeBytes_append_sliceBytes hi hij
  refine ⟨_, .ofList (sliceBytes s.toList i j), _, ?_, ?_, ?_, ?_, slice?_front hi, slice?_back hj⟩
  · rw [← String.ofList_append, ← String.ofList_append, hmiddle, takeBytes_append_dropBytes,
      String.ofList_toList]
  · rw [splice, String.ofList_append, String.ofList_append, String.ofList_toList]
  · rw [String.toList_ofList]
    exact hi
  · rw [← String.ofList_append, hmiddle, String.toList_ofList]
    exact hj

/-- A line that exists has a start. -/
theorem exists_start_of_lt (h : l < lineCount s) : ∃ start, (lineStarts s.toList)[l]? = some start :=
  ⟨_, List.getElem?_eq_getElem h⟩

/-- A text is spliced if the lines of the range exist. -/
theorem exists_splices (t : String) (h : HasLines s r) :
    ∃ i j new, replace? s r t = some new ∧ Splices s r t new i j := by
  obtain ⟨start, hstart⟩ := exists_start_of_lt h.1
  obtain ⟨start', hstart'⟩ := exists_start_of_lt h.2
  obtain ⟨front, hfront, hi, -, hline⟩ := exists_front_of_position hstart
  obtain ⟨front', hfront', hj, -⟩ := exists_front_of_position hstart'
  have hiboundary : IsBoundary s.toList (byteLength front) := isBoundary_iff.2 ⟨front, hfront, rfl⟩
  have hjboundary : IsBoundary s.toList (max (byteLength front) (byteLength front')) :=
    hiboundary.max (isBoundary_iff.2 ⟨front', hfront', rfl⟩)
  refine ⟨byteLength front, max (byteLength front) (byteLength front'),
    splice s (byteLength front) (max (byteLength front) (byteLength front')) t, ?_, ?_⟩
  · rw [replace?, hi, hj]
    rfl
  · refine ⟨le_max_left _ _, max_le (byteLength_mono hfront) (byteLength_mono hfront'),
      exists_parts_of_splice (le_max_left _ _) hiboundary hjboundary, hi, ⟨start, hstart, hline⟩,
      fun hr => ?_, fun k hk hlt => ?_⟩
    · rw [hj, max_eq_right (byteOfPosition?_mono hr hi hj)]
    · cases hj.symm.trans hk
      exact max_eq_left hlt.le

/-- Nothing is replaced if a line of the range does not exist. -/
theorem replace?_eq_none (h : ¬HasLines s r) : replace? s r t = none := by
  simp only [HasLines, ← byteOfPosition?_isSome_iff, not_and_or, Option.not_isSome_iff_eq_none] at h
  rcases h with h | h
  · rw [replace?, h]
    rfl
  · rw [replace?, h]
    cases byteOfPosition? s r.start <;> rfl

end Text

namespace Document

open Text

/-- A change of a range is a splice of the text of its document, or nothing. If a line of the
    range does not exist, the document stays as it is. Otherwise its text is cut at two
    boundaries that the range leads to, whatever its columns are and however it is
    directed. No slice fails on the way, neither at the two boundaries nor along the lines
    on which they are looked for. -/
theorem change_is_splice_or_nothing (d : Document) (r : Range) (t : String) :
    (¬HasLines d.content r → (d.edit ⟨some r, t⟩).1 = d) ∧
    (HasLines d.content r → ∃ i j new, Splices d.content r t new i j ∧
      (d.edit ⟨some r, t⟩).1 = d.withContent new) ∧
    ∀ l start, (lineStarts d.content.toList)[l]? = some start →
      ∃ line, slice? d.content start ((lineStarts d.content.toList).getD (l + 1)
        (byteLength d.content.toList)) = some line := by
  refine ⟨fun hlines => ?_, fun hlines => ?_, fun l start => exists_slice_of_line⟩
  · simp only [edit, replace?_eq_none hlines]
  · obtain ⟨i, j, new, hreplace, hsplices⟩ := exists_splices t hlines
    exact ⟨i, j, new, hsplices, by simp only [edit, hreplace]⟩

/-- The end of the range is further up than its start, and both are inside of characters. -/
example : ((create "file:///a.css" .css "😀a\n😀b" 1).edit ⟨some ⟨⟨1, 1⟩, ⟨0, 1⟩⟩, "x"⟩).1.content =
    "😀a\n😀xb" := by decide

end Document

end StyleLens
