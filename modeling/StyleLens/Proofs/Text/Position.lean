import Mathlib.Data.List.DropRight
import Mathlib.Data.List.GetD
import Mathlib.Data.Prod.Lex
import StyleLens.Proofs.Text.Measure
import StyleLens.Text.Position

/-!
# Positions by counting

The position of a byte is looked up in an index of lines. It is also what a
reader gets who counts along the text in front of the byte (`Text.placeAfter`): a
line feed starts a line, any other character goes on in it by its units. The two
agree (`Text.positionOfByte_eq`), and as counting only ever goes on, positions
are in the order of the bytes (`Text.positionOfByte_mono`).

* `Text.lineOfByte_lineStarts`: a line is looked up as it is counted, also for a byte
  inside of a character;
* `Text.byteOfOffset?_eq_none_iff`, `Text.offsetOfByte_le_units`: which offsets
  there are;
* `Text.byteOfPosition?_isSome_iff`: which positions have a byte.
-/

namespace StyleLens

/-- Positions compare by line, then by column. -/
instance : LE Position :=
  ⟨fun p q => p.line < q.line ∨ p.line = q.line ∧ p.character ≤ q.character⟩

instance (p q : Position) : Decidable (p ≤ q) :=
  inferInstanceAs (Decidable (p.line < q.line ∨ p.line = q.line ∧ p.character ≤ q.character))

namespace Text

/-! ### Counting -/

/-- The line and the column after one more character, from those in front of it. -/
def advance (place : Nat × Nat) (c : Char) : Nat × Nat :=
  if c = '\n' then (place.1 + 1, 0) else (place.1, place.2 + charUnits c)

/-- The line and the column after a text. -/
def placeAfter (cs : List Char) : Nat × Nat := cs.foldl advance (0, 0)

theorem placeAfter_concat (cs : List Char) (c : Char) :
    placeAfter (cs ++ [c]) = advance (placeAfter cs) c := by
  rw [placeAfter, List.foldl_append, List.foldl_cons, List.foldl_nil, placeAfter]

/-- A character goes on in its line or starts the next one. -/
theorem le_advance (place : Nat × Nat) (c : Char) : toLex place ≤ toLex (advance place c) := by
  rw [Prod.Lex.toLex_le_toLex, advance]
  split_ifs
  · exact .inl (Nat.lt_succ_self place.1)
  · exact .inr ⟨rfl, Nat.le_add_right place.2 _⟩

theorem le_foldl_advance (place : Nat × Nat) (cs : List Char) :
    toLex place ≤ toLex (cs.foldl advance place) := by
  induction cs generalizing place with
  | nil => exact le_rfl
  | cons c cs ih => exact (le_advance place c).trans (ih (advance place c))

/-- A longer text ends at a later place. -/
theorem placeAfter_mono {cs ds : List Char} (h : cs <+: ds) :
    toLex (placeAfter cs) ≤ toLex (placeAfter ds) := by
  obtain ⟨rest, rfl⟩ := h
  rw [placeAfter, placeAfter, List.foldl_append]
  exact le_foldl_advance _ rest

/-- Lines and columns are counted in characters, so there are no more of them than
    bytes. -/
theorem placeAfter_le_byteLength (cs : List Char) :
    (placeAfter cs).1 + (placeAfter cs).2 ≤ byteLength cs := by
  induction cs using List.reverseRecOn with
  | nil => exact le_rfl
  | append_singleton cs c ih =>
    have hunits := charUnits_le_utf8Size c
    have hsize := c.utf8Size_pos
    rw [placeAfter_concat, byteLength_append, byteLength_cons, byteLength_nil, advance]
    split_ifs <;> dsimp only <;> omega

/-! ### The last line -/

/-- The part of a text behind its last line feed. -/
def lastLine (cs : List Char) : List Char := cs.rtakeWhile (· ≠ '\n')

/-- The part of a text up to its last line feed. -/
def linesAbove (cs : List Char) : List Char := cs.rdropWhile (· ≠ '\n')

theorem ne_lineFeed_of_mem_lastLine {c : Char} {cs : List Char} (h : c ∈ lastLine cs) :
    c ≠ '\n' := by
  simpa using List.mem_rtakeWhile_imp h

theorem linesAbove_append_lastLine (cs : List Char) : linesAbove cs ++ lastLine cs = cs :=
  List.rdropWhile_append_rtakeWhile ..

theorem byteLength_linesAbove_add (cs : List Char) :
    byteLength (linesAbove cs) + byteLength (lastLine cs) = byteLength cs := by
  rw [← byteLength_append, linesAbove_append_lastLine]

/-- From the start of the last line of `front`, a text goes on with that line. -/
theorem sliceBytes_linesAbove (front rest : List Char) (n : Nat) :
    sliceBytes (front ++ rest) (byteLength (linesAbove front)) (byteLength front + n) =
      lastLine front ++ takeBytes n rest := by
  rw [sliceBytes, ← byteLength_linesAbove_add, Nat.add_assoc, Nat.add_sub_cancel_left]
  conv in front ++ rest => rw [← linesAbove_append_lastLine front]
  rw [List.append_assoc, dropBytes_append, takeBytes_append_add]

/-- The column after a text is the length of its last line. -/
theorem placeAfter_snd (cs : List Char) : (placeAfter cs).2 = unitLength (lastLine cs) := by
  induction cs using List.reverseRecOn with
  | nil => rfl
  | append_singleton cs c ih =>
    rw [placeAfter_concat, lastLine, List.rtakeWhile_concat, advance]
    by_cases hc : c = '\n'
    · simp [hc]
    · simp [hc, ih, lastLine]

/-! ### The index of lines -/

theorem startsAfter_append (b : Nat) (cs ds : List Char) :
    startsAfter b (cs ++ ds) = startsAfter b cs ++ startsAfter (b + byteLength cs) ds := by
  induction cs generalizing b with
  | nil => rfl
  | cons c cs ih =>
    by_cases hc : c = '\n' <;> simp [startsAfter, hc, ih, Nat.add_assoc]

/-- A line starts after the byte that its text starts at. -/
theorem lt_of_mem_startsAfter {b x : Nat} {cs : List Char} (h : x ∈ startsAfter b cs) : b < x := by
  induction cs generalizing b with
  | nil => cases h
  | cons c cs ih =>
    have hsize := c.utf8Size_pos
    rw [startsAfter] at h
    split_ifs at h with hc
    · rcases List.mem_cons.1 h with rfl | h
      · omega
      · have := ih h
        omega
    · have := ih h
      omega

/-- A line starts at the latest at the end of its text. -/
theorem le_of_mem_startsAfter {b x : Nat} {cs : List Char} (h : x ∈ startsAfter b cs) :
    x ≤ b + byteLength cs := by
  induction cs generalizing b with
  | nil => cases h
  | cons c cs ih =>
    rw [startsAfter] at h
    rw [byteLength_cons, ← Nat.add_assoc]
    split_ifs at h with hc
    · rcases List.mem_cons.1 h with rfl | h
      · exact Nat.le_add_right _ _
      · exact ih h
    · exact ih h

/-- The first line behind a text starts no sooner than the text; without one, the text
    ends there. -/
theorem le_getD_startsAfter (b : Nat) (cs : List Char) :
    b ≤ (startsAfter b cs).getD 0 (b + byteLength cs) := by
  cases h : startsAfter b cs with
  | nil => exact Nat.le_add_right b _
  | cons x xs =>
    have hx : x ∈ startsAfter b cs := h ▸ List.mem_cons_self
    rw [List.getD_cons_zero]
    exact (lt_of_mem_startsAfter hx).le

/-- The lines of two texts in a row are those of the first, and those that start
    in the second. -/
theorem lineStarts_append (cs ds : List Char) :
    lineStarts (cs ++ ds) = lineStarts cs ++ startsAfter (byteLength cs) ds := by
  rw [lineStarts, startsAfter_append, Nat.zero_add, lineStarts, List.cons_append]

theorem le_of_mem_lineStarts {x : Nat} {cs : List Char} (h : x ∈ lineStarts cs) :
    x ≤ byteLength cs := by
  rcases List.mem_cons.1 h with rfl | h
  · exact Nat.zero_le _
  · simpa using le_of_mem_startsAfter h

/-- The lines that start in what is left behind byte `b` start past the byte, also if it is
    inside of a character. -/
theorem lt_of_mem_startsAfter_dropBytes {start b x : Nat} {cs : List Char}
    (h : x ∈ startsAfter (start + byteLength (takeBytes b cs)) (dropBytes b cs)) :
    start + b < x := by
  induction cs generalizing start b with
  | nil => cases h
  | cons c cs ih =>
    rw [takeBytes, dropBytes] at h
    split_ifs at h with hc
    · rw [byteLength_cons, ← Nat.add_assoc] at h
      have := ih h
      omega
    · rw [byteLength_nil, Nat.add_zero, startsAfter] at h
      split_ifs at h with hfeed
      · rcases List.mem_cons.1 h with rfl | h
        · omega
        · have := lt_of_mem_startsAfter h
          omega
      · have := lt_of_mem_startsAfter h
        omega

/-- What is taken from a list up to a bound is the part of it that is within the bound, if
    all that follows is beyond. -/
theorem takeWhile_le_append {front back : List Nat} {b : Nat} (hfront : ∀ x ∈ front, x ≤ b)
    (hback : ∀ x ∈ back, b < x) : (front ++ back).takeWhile (· ≤ b) = front := by
  have hnone : back.takeWhile (· ≤ b) = [] := by
    cases back with
    | nil => rfl
    | cons x back =>
      rw [List.takeWhile_cons_of_neg (by simpa using hback x List.mem_cons_self)]
  rw [List.takeWhile_append_of_pos fun x hx => decide_eq_true (hfront x hx), hnone,
    List.append_nil]

/-- The lines that start at or before a byte are the lines of the text in front of it. -/
theorem takeWhile_lineStarts (cs : List Char) (b : Nat) :
    (lineStarts cs).takeWhile (· ≤ b) = lineStarts (takeBytes b cs) := by
  have hcut : lineStarts cs = lineStarts (takeBytes b cs) ++
      startsAfter (byteLength (takeBytes b cs)) (dropBytes b cs) := by
    rw [← lineStarts_append, takeBytes_append_dropBytes]
  rw [hcut]
  apply takeWhile_le_append
  · exact fun x hx => (le_of_mem_lineStarts hx).trans (byteLength_takeBytes_le b cs)
  · intro x hx
    rw [← Nat.zero_add (byteLength _)] at hx
    have := lt_of_mem_startsAfter_dropBytes hx
    omega

/-- One more character is the end of a line, or it adds none. -/
theorem lineStarts_concat (cs : List Char) (c : Char) :
    lineStarts (cs ++ [c]) =
      lineStarts cs ++ if c = '\n' then [byteLength cs + c.utf8Size] else [] := by
  rw [lineStarts_append, startsAfter]
  split_ifs <;> rfl

/-- The index has one line, and one more for each line feed. -/
theorem length_lineStarts (cs : List Char) : (lineStarts cs).length = (placeAfter cs).1 + 1 := by
  induction cs using List.reverseRecOn with
  | nil => rfl
  | append_singleton cs c ih =>
    rw [lineStarts_concat, placeAfter_concat, advance, List.length_append, ih]
    split_ifs <;> rfl

/-- The line of a byte is counted along the text in front of it. -/
theorem lineOfByte_lineStarts (cs : List Char) (b : Nat) :
    lineOfByte (lineStarts cs) b = (placeAfter (takeBytes b cs)).1 := by
  rw [lineOfByte, takeWhile_lineStarts, length_lineStarts, Nat.add_sub_cancel]

/-- The last line in the index starts behind the last line feed. -/
theorem getElem?_lineStarts (cs : List Char) :
    (lineStarts cs)[(placeAfter cs).1]? = some (byteLength (linesAbove cs)) := by
  induction cs using List.reverseRecOn with
  | nil => rfl
  | append_singleton cs c ih =>
    rw [lineStarts_concat, placeAfter_concat, linesAbove, List.rdropWhile_concat, advance]
    by_cases hc : c = '\n'
    · -- The line that starts behind a line feed is the one that it adds to the index.
      simp [hc, ← length_lineStarts]
    · simp [hc, ih, linesAbove]

/-- What follows a text does not move the start of its last line. -/
theorem getElem?_lineStarts_append (cs ds : List Char) :
    (lineStarts (cs ++ ds))[(placeAfter cs).1]? = some (byteLength (linesAbove cs)) := by
  have hget := getElem?_lineStarts cs
  obtain ⟨hlt, -⟩ := List.getElem?_eq_some_iff.1 hget
  rw [lineStarts_append, List.getElem?_append_left hlt, hget]

/-! ### Positions -/

/-- The position of a byte is counted along the text in front of it. -/
theorem positionOfByte_eq (s : String) (b : Nat) :
    positionOfByte s b =
      ⟨.ofNat (placeAfter (takeBytes b s.toList)).1,
        .ofNat (placeAfter (takeBytes b s.toList)).2⟩ := by
  -- The text is what stands in front of the byte, its lines above and its last
  -- one, and then the rest.
  generalize hfront : takeBytes b s.toList = front
  have hcut : s.toList = front ++ dropBytes b s.toList := by
    rw [← hfront, takeBytes_append_dropBytes]
  have hline : lineOfByte (lineStarts s.toList) (byteLength front) = (placeAfter front).1 := by
    rw [lineOfByte_lineStarts, hcut, takeBytes_append]
  have hstart : (lineStarts s.toList).getD (placeAfter front).1 0 =
      byteLength (linesAbove front) := by
    rw [hcut, List.getD_eq_getElem?_getD, getElem?_lineStarts_append, Option.getD_some]
  have hslice : sliceBytes s.toList (byteLength (linesAbove front)) (byteLength front) =
      lastLine front := by
    rw [hcut, ← Nat.add_zero (byteLength front), sliceBytes_linesAbove, takeBytes_zero,
      List.append_nil]
  rw [positionOfByte]
  simp only [floorByte, hfront, hline, hstart, hslice, placeAfter_snd]

/-- In a text of less than 2^32 bytes, no line and no column wraps. -/
theorem toNat_positionOfByte {s : String} (hs : byteLength s.toList < UInt32.size) (b : Nat) :
    (positionOfByte s b).line.toNat = (placeAfter (takeBytes b s.toList)).1 ∧
      (positionOfByte s b).character.toNat = (placeAfter (takeBytes b s.toList)).2 := by
  have hplace := placeAfter_le_byteLength (takeBytes b s.toList)
  have hfront : byteLength (takeBytes b s.toList) ≤ byteLength s.toList := by
    have hcut := congrArg byteLength (takeBytes_append_dropBytes b s.toList)
    rw [byteLength_append] at hcut
    omega
  rw [positionOfByte_eq]
  exact ⟨UInt32.toNat_ofNat_of_lt' (show _ < UInt32.size by omega),
    UInt32.toNat_ofNat_of_lt' (show _ < UInt32.size by omega)⟩

/-- Positions are in the order of the bytes. -/
theorem positionOfByte_mono {s : String} (hs : byteLength s.toList < UInt32.size) {b c : Nat}
    (h : b ≤ c) : positionOfByte s b ≤ positionOfByte s c := by
  obtain ⟨hline, hcolumn⟩ := toNat_positionOfByte hs b
  obtain ⟨hline', hcolumn'⟩ := toNat_positionOfByte hs c
  have hplaces := placeAfter_mono (takeBytes_prefix_of_le s.toList h)
  rw [Prod.Lex.toLex_le_toLex, ← hline, ← hcolumn, ← hline', ← hcolumn', UInt32.toNat_inj] at hplaces
  exact hplaces

/-! ### Which places there are -/

/-- An offset leads to a byte unless it is past the end of the text. -/
theorem seekOffset?_eq_none_iff (cs : List Char) (o : Nat) :
    seekOffset? cs o = none ↔ unitLength cs < o := by
  induction cs generalizing o with
  | nil =>
    rw [seekOffset?, unitLength_nil]
    split_ifs <;> simp <;> omega
  | cons c cs ih =>
    rw [seekOffset?, unitLength_cons]
    split_ifs with h
    · simp only [false_iff]
      omega
    · rw [Option.map_eq_none_iff, ih]
      omega

/-- The byte that an offset leads to is not past the end of the text. -/
theorem le_of_seekOffset? {cs : List Char} {o b : Nat} (h : seekOffset? cs o = some b) :
    b ≤ byteLength cs := by
  induction cs generalizing o b with
  | nil =>
    rw [seekOffset?] at h
    split_ifs at h
    cases h
    exact le_rfl
  | cons c cs ih =>
    rw [seekOffset?] at h
    split_ifs at h with hc
    · cases h
      exact Nat.zero_le _
    · obtain ⟨b, hb, rfl⟩ := Option.map_eq_some_iff.1 h
      exact Nat.add_le_add_left (ih hb) _

theorem byteOfOffset?_eq_none_iff (s : String) (o : Nat) :
    byteOfOffset? s o = none ↔ units s < o := seekOffset?_eq_none_iff s.toList o

/-- The offset of a byte is not past the end of the text. -/
theorem offsetOfByte_le_units (s : String) (b : Nat) : offsetOfByte s b ≤ units s := by
  have hcut := congrArg unitLength (takeBytes_append_dropBytes b s.toList)
  rw [unitLength_append] at hcut
  rw [offsetOfByte, units]
  omega

/-- A position leads to a byte exactly if its line exists. -/
theorem byteOfPosition?_isSome_iff (s : String) (p : Position) :
    (byteOfPosition? s p).isSome ↔ p.line.toNat < lineCount s := by
  rw [byteOfPosition?, Option.isSome_map, isSome_getElem?, lineCount]

end Text

end StyleLens
