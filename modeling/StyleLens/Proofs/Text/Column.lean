import StyleLens.Hover.Basic
import StyleLens.Proofs.Text.Offset

/-!
# Columns and offsets

A place on a line can be named by its column, or by the offset that is so many units
behind the start of the line. Both are found by counting along the same characters,
and they agree where a character ends. Inside of a surrogate pair they part: the
offset leads to the start of the character, and the column to its end
(`Text.places_of_column`).

So a position and its offset lead to the same byte exactly if the column is not inside
of a surrogate pair, and then to the same hover (`Guide.column_agrees_with_offset_iff`).
-/

namespace StyleLens

namespace Text

variable {s : String} {p : Position} {start : Nat}

/-! ### Lines -/

/-- A line of the index starts where a head of the text ends, and the lines in front of it
    are those that start in the head. -/
theorem exists_split_of_line {b l : Nat} {cs : List Char}
    (h : (b :: startsAfter b cs)[l]? = some start) :
    ∃ above rest, cs = above ++ rest ∧ start = b + byteLength above ∧
      (startsAfter b above).length = l := by
  induction cs generalizing b l with
  | nil =>
    cases l with
    | zero => exact ⟨[], [], rfl, (Option.some.inj h).symm, rfl⟩
    | succ l => cases h
  | cons c cs ih =>
    cases l with
    | zero => exact ⟨[], c :: cs, rfl, (Option.some.inj h).symm, rfl⟩
    | succ l =>
      rw [List.getElem?_cons_succ, startsAfter] at h
      by_cases hc : c = '\n'
      · rw [if_pos hc] at h
        obtain ⟨above, rest, rfl, rfl, hlength⟩ := ih h
        refine ⟨c :: above, rest, rfl, by rw [byteLength_cons, Nat.add_assoc], ?_⟩
        rw [startsAfter, if_pos hc, List.length_cons, hlength]
      · rw [if_neg hc, ← List.getElem?_cons_succ (a := b + c.utf8Size)] at h
        obtain ⟨above, rest, rfl, rfl, hlength⟩ := ih h
        refine ⟨c :: above, rest, rfl, by rw [byteLength_cons, Nat.add_assoc], ?_⟩
        rw [startsAfter, if_neg hc, hlength]

/-- The walk to a column does not see where the line was cut off from what follows it. -/
theorem seekColumn_takeBytes_line (b : Nat) (rest : List Char) (n : Nat) :
    seekColumn (takeBytes ((startsAfter b rest).getD 0 (b + byteLength rest) - b) rest) n =
      seekColumn rest n := by
  induction rest generalizing b n with
  | nil => rfl
  | cons c rest ih =>
    have hnext := le_getD_startsAfter (b + c.utf8Size) rest
    have ih := ih (b + c.utf8Size) (n - charUnits c)
    rw [startsAfter, byteLength_cons, ← Nat.add_assoc]
    by_cases hc : c = '\n'
    · rw [if_pos hc, List.getD_cons_zero, Nat.add_sub_cancel_left, takeBytes, if_pos le_rfl,
        seekColumn, seekColumn, if_pos (.inr (.inl hc)), if_pos (.inr (.inl hc))]
    · rw [if_neg hc, takeBytes, if_pos (by omega), seekColumn, seekColumn, Nat.sub_sub, ih]

/-- The byte at a position is found by a walk from the start of its line. -/
theorem byteOfPosition?_eq (hline : (lineStarts s.toList)[p.line.toNat]? = some start) :
    ∃ above rest, s.toList = above ++ rest ∧ start = byteLength above ∧
      byteOfPosition? s p = some (start + seekColumn rest p.character.toNat) := by
  obtain ⟨above, rest, hs, hstart, hlength⟩ := exists_split_of_line hline
  rw [Nat.zero_add] at hstart
  refine ⟨above, rest, hs, hstart, ?_⟩
  have hstop : (lineStarts s.toList).getD (p.line.toNat + 1) (byteLength s.toList) =
      (startsAfter start rest).getD 0 (start + byteLength rest) := by
    have hlines : (lineStarts above).length = p.line.toNat + 1 := by
      rw [lineStarts, List.length_cons, hlength]
    rw [hs, lineStarts_append, ← hlines, List.getD_append_right _ _ _ _ le_rfl, Nat.sub_self,
      byteLength_append, ← hstart]
  have hslice : dropBytes start s.toList = rest := by rw [hs, hstart, dropBytes_append]
  rw [byteOfPosition?]
  simp only [hline, Option.map_some, hstop, sliceBytes, hslice, seekColumn_takeBytes_line]

/-! ### Places on a line -/

/-- The part of a text in front of its first line break. -/
def firstLine (cs : List Char) : List Char := cs.takeWhile fun c => c ≠ '\n' ∧ c ≠ '\r'

theorem no_break_of_mem_firstLine {c : Char} {cs : List Char} (h : c ∈ firstLine cs) :
    c ≠ '\n' ∧ c ≠ '\r' := by
  simpa using List.mem_takeWhile_imp h

/-- The walk to a column on a line goes to the end of the part of the line that is so long.
    If there is none, the column is inside of a character, and the walk goes past it. -/
theorem seekColumn_of_le_firstLine {cs : List Char} {n : Nat} (h : n ≤ unitLength (firstLine cs)) :
    ∃ line rest, cs = line ++ rest ∧
      (n = unitLength line ∧ seekColumn cs n = byteLength line ∨
        ∃ c after, rest = c :: after ∧ charUnits c = 2 ∧ n = unitLength line + 1 ∧
          seekColumn cs n = byteLength (line ++ [c])) := by
  obtain ⟨line, more, hline, hplace⟩ := atEnd_or_inPair h
  obtain ⟨after, hafter⟩ : firstLine cs <+: cs := List.takeWhile_prefix _
  have hbreak : ∀ c ∈ line ++ more, c ≠ '\n' ∧ c ≠ '\r' := fun c hc =>
    no_break_of_mem_firstLine (hline ▸ hc)
  have hfront : ∀ c ∈ line, c ≠ '\n' ∧ c ≠ '\r' := fun c hc => hbreak c (List.mem_append_left _ hc)
  have hcs : cs = line ++ (more ++ after) := by rw [← List.append_assoc, ← hline, hafter]
  refine ⟨line, more ++ after, hcs, ?_⟩
  rcases hplace with rfl | ⟨rfl, c, tail, rfl, hc⟩
  · left
    rw [hcs, seekColumn_append _ hfront]
    exact ⟨rfl, rfl⟩
  · right
    refine ⟨c, tail ++ after, rfl, hc, rfl, ?_⟩
    -- One unit is left at the character, which has no line break: the walk takes all of it.
    have hgoes : ¬(1 = 0 ∨ c = '\n' ∨ c = '\r') := by
      have hcbreak := hbreak c (List.mem_append_right _ List.mem_cons_self)
      rintro (h | h | h)
      · cases h
      · exact hcbreak.1 h
      · exact hcbreak.2 h
    rw [hcs, seekColumn_append_add _ _ hfront, List.cons_append, seekColumn, if_neg hgoes, hc,
      seekColumn_zero, byteLength_append, byteLength_cons, byteLength_nil]

/-- A place on a line is where a head of the text ends, and then the position leads there
    and its offset counts the head. Or it is inside of the character that follows, and then
    the position leads to the end of that character. -/
theorem places_of_column (hline : (lineStarts s.toList)[p.line.toNat]? = some start)
    (hcolumn : p.character.toNat ≤ unitLength (firstLine (dropBytes start s.toList))) :
    ∃ front rest, s.toList = front ++ rest ∧
      (offsetOfByte s start + p.character.toNat = unitLength front ∧
          byteOfPosition? s p = some (byteLength front) ∨
        ∃ c after, rest = c :: after ∧ charUnits c = 2 ∧
          offsetOfByte s start + p.character.toNat = unitLength front + 1 ∧
          byteOfPosition? s p = some (byteLength (front ++ [c]))) := by
  obtain ⟨above, below, hs, rfl, hbyte⟩ := byteOfPosition?_eq hline
  rw [hs, dropBytes_append] at hcolumn
  rw [hbyte, offsetOfByte_of_front hs]
  obtain ⟨line, rest, rfl, hplace⟩ := seekColumn_of_le_firstLine hcolumn
  refine ⟨above ++ line, rest, by rw [hs, List.append_assoc], ?_⟩
  rw [unitLength_append]
  rcases hplace with ⟨hn, hseek⟩ | ⟨c, after, rfl, hc, hn, hseek⟩
  · exact .inl ⟨by rw [hn], by rw [hseek, byteLength_append]⟩
  · exact .inr ⟨c, after, rfl, hc, by rw [hn, Nat.add_assoc],
      by rw [hseek, List.append_assoc, byteLength_append above]⟩

end Text

namespace Guide

open Text

/-- A hover at a position is the hover at the offset of the byte that the position leads
    to. -/
theorem hoverAt?_of_front {g : Guide} {s : String} {tree : Tree} {dialect : Dialect} {p : Position}
    {front rest : List Char} (hs : s.toList = front ++ rest)
    (hp : byteOfPosition? s p = some (byteLength front)) :
    g.hoverAt? s tree dialect p = g.hoverAtOffset? s tree dialect (unitLength front) := by
  rw [hoverAt?, offsetOfPosition?, hp, Option.map_some, offsetOfByte_of_front hs, Option.bind_some]

/-- A place on a line, up to its first line break, is named by its column and by the offset
    that is so many units behind the start of the line. The two lead to the same byte
    exactly if the place is not inside of a surrogate pair. There the position leads to the
    end of the character, four bytes behind its start, where the offset leads. So the
    hover at the position is the one at the offset, or the one at the offset behind the
    character. -/
theorem column_agrees_with_offset_iff {s : String} {p : Position} {start o : Nat}
    (hline : (lineStarts s.toList)[p.line.toNat]? = some start)
    (hcolumn : p.character.toNat ≤ unitLength (firstLine (dropBytes start s.toList)))
    (ho : o = offsetOfByte s start + p.character.toNat) :
    (byteOfPosition? s p = byteOfOffset? s o ↔ ¬InsidePair s o) ∧
    (InsidePair s o → ∃ b, byteOfOffset? s o = some b ∧ byteOfPosition? s p = some (b + 4)) ∧
    ∀ (g : Guide) (tree : Tree) (dialect : Dialect),
      (¬InsidePair s o → g.hoverAt? s tree dialect p = g.hoverAtOffset? s tree dialect o) ∧
      (InsidePair s o → g.hoverAt? s tree dialect p = g.hoverAtOffset? s tree dialect (o + 1)) := by
  subst ho
  obtain ⟨front, rest, hs, ⟨ho, hp⟩ | ⟨c, after, rfl, hc, ho, hp⟩⟩ := places_of_column hline hcolumn
  · -- Both ways lead to the end of the head.
    have hpair := not_insidePair_of_front hs
    rw [ho]
    refine ⟨?_, fun h => absurd h hpair, fun g tree dialect =>
      ⟨fun _ => hoverAt?_of_front hs hp, fun h => absurd h hpair⟩⟩
    rw [hp, byteOfOffset?_of_front hs]
    exact iff_of_true rfl hpair
  · -- The offset leads to the end of the head, and the position past the character.
    have hpair : InsidePair s (unitLength front + 1) := ⟨front, c, after, hs, hc, rfl⟩
    have hs' : s.toList = (front ++ [c]) ++ after := by rw [hs, List.append_assoc]; rfl
    have hstart := byteOfOffset?_of_pair hs hc
    have hbytes : byteLength (front ++ [c]) = byteLength front + 4 := by
      rw [byteLength_append, byteLength_cons, byteLength_nil, utf8Size_of_pair hc]
    have hunits : unitLength (front ++ [c]) = unitLength front + 1 + 1 := by
      rw [unitLength_append, unitLength_cons, unitLength_nil, hc]
    rw [ho]
    refine ⟨?_, fun _ => ⟨byteLength front, hstart, hbytes ▸ hp⟩, fun g tree dialect =>
      ⟨fun h => absurd hpair h, fun _ => hunits ▸ hoverAt?_of_front hs' hp⟩⟩
    rw [hp, hstart, hbytes]
    refine iff_of_false (fun h => ?_) (fun h => h hpair)
    have := Option.some.inj h
    omega

/-- On the second line, behind and inside of a character outside the basic plane. -/
theorem column_agrees_with_offset_iff_secondLine :
    byteOfPosition? "a\n😀b" ⟨1, 2⟩ = byteOfOffset? "a\n😀b" 4 ∧
      ∃ b, byteOfOffset? "a\n😀b" 3 = some b ∧ byteOfPosition? "a\n😀b" ⟨1, 1⟩ = some (b + 4) := by
  have hline : (lineStarts "a\n😀b".toList)[1]? = some 2 := by decide
  have hpair : InsidePair "a\n😀b" 3 :=
    ⟨"a\n".toList, '😀', "b".toList, by decide, by decide, by decide⟩
  have hs : "a\n😀b".toList = "a\n😀".toList ++ "b".toList := by decide
  have hbehind : ¬InsidePair "a\n😀b" 4 := not_insidePair_of_front hs
  exact ⟨(column_agrees_with_offset_iff (p := ⟨1, 2⟩) hline (by decide) (by decide)).1.2 hbehind,
    (column_agrees_with_offset_iff (p := ⟨1, 1⟩) hline (by decide) (by decide)).2.1 hpair⟩

/-- A column inside of a surrogate pair leads to another byte than its offset. -/
theorem column_inside_pair_disagrees :
    (lineStarts "😀".toList)[0]? = some 0 ∧
      1 ≤ unitLength (firstLine (dropBytes 0 "😀".toList)) ∧
      byteOfPosition? "😀" ⟨0, 1⟩ = some 4 ∧
      byteOfOffset? "😀" (offsetOfByte "😀" 0 + 1) = some 0 := by
  decide

end Guide

end StyleLens
