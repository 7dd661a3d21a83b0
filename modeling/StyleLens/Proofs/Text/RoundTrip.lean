import StyleLens.Proofs.Text.Column

/-!
# From a byte to its position and back

Only a line feed starts a line, while a carriage return ends a column as well. So a
byte is found again from its position if there is no carriage return between the
start of its line and the byte. Otherwise the way back ends early, at the first
carriage return of the line (`Text.byteOfPosition?_positionOfByte`).

Where each carriage return is followed by a line feed, the only places that are not
found again are those between the two (`Text.round_trip_misses_returns`).
-/

namespace StyleLens.Text

variable {s : String} {b : Nat}

/-! ### The line of a byte -/

/-- Where the line with byte `b` starts: behind the last line feed in front of the byte,
    or at the start of the text. -/
def lineStart (s : String) (b : Nat) : Nat := byteLength (linesAbove (takeBytes b s.toList))

/-- The first carriage return of `s` from byte `start` on; without one, the end. -/
def firstReturn (s : String) (start : Nat) : Nat :=
  start + byteLength ((dropBytes start s.toList).takeWhile (· ≠ '\r'))

/-- A text is what is above the line of a byte, the line up to the byte, and the rest. -/
theorem toList_eq_lines (s : String) (b : Nat) :
    s.toList = linesAbove (takeBytes b s.toList) ++
      (lastLine (takeBytes b s.toList) ++ dropBytes b s.toList) := by
  rw [← List.append_assoc, linesAbove_append_lastLine, takeBytes_append_dropBytes]

theorem dropBytes_lineStart (s : String) (b : Nat) :
    dropBytes (lineStart s b) s.toList =
      lastLine (takeBytes b s.toList) ++ dropBytes b s.toList := by
  conv_lhs => rw [toList_eq_lines s b]
  exact dropBytes_append ..

/-- Between the start of its line and a byte there is the line so far. -/
theorem sliceBytes_lineStart (hb : IsBoundary s.toList b) :
    sliceBytes s.toList (lineStart s b) b = lastLine (takeBytes b s.toList) := by
  have h := sliceBytes_linesAbove (takeBytes b s.toList) (dropBytes b s.toList) 0
  rw [takeBytes_append_dropBytes, takeBytes_zero, List.append_nil, Nat.add_zero] at h
  change sliceBytes s.toList (lineStart s b) (floorByte s.toList b) = _ at h
  rwa [hb] at h

theorem lineStart_add (hb : IsBoundary s.toList b) :
    lineStart s b + byteLength (lastLine (takeBytes b s.toList)) = b :=
  (byteLength_linesAbove_add _).trans hb

/-! ### The way back -/

/-- The walk along a line ends at a carriage return on the way. -/
theorem seekColumn_return {part : List Char} (rest : List Char) {n : Nat}
    (hbreak : ∀ c ∈ part, c ≠ '\n' ∧ c ≠ '\r') (hn : unitLength part ≤ n) :
    seekColumn (part ++ '\r' :: rest) n = byteLength part := by
  obtain ⟨k, rfl⟩ := Nat.exists_eq_add_of_le hn
  rw [seekColumn_append_add _ _ hbreak, seekColumn, if_pos (.inr (.inr rfl)), Nat.add_zero]

/-- The way back from the position of a byte is a walk from the start of its line. -/
theorem byteOfPosition?_positionOfByte_eq (hs : byteLength s.toList < UInt32.size) (b : Nat) :
    byteOfPosition? s (positionOfByte s b) =
      some (lineStart s b + seekColumn (dropBytes (lineStart s b) s.toList)
        (unitLength (lastLine (takeBytes b s.toList)))) := by
  obtain ⟨hline, hcolumn⟩ := toNat_positionOfByte hs b
  have hstart : (lineStarts s.toList)[(positionOfByte s b).line.toNat]? = some (lineStart s b) := by
    have hget := getElem?_lineStarts_append (takeBytes b s.toList) (dropBytes b s.toList)
    rwa [takeBytes_append_dropBytes, ← hline] at hget
  obtain ⟨above, rest, hcut, hlength, hbyte⟩ := byteOfPosition?_eq hstart
  rw [hbyte, hcolumn, placeAfter_snd, hcut, hlength, dropBytes_append]

/-- A line with a carriage return goes up to its first one, and on behind it. -/
theorem exists_part_of_return {cs : List Char} (h : '\r' ∈ lastLine cs) :
    ∃ part more, lastLine cs = part ++ '\r' :: more ∧ ∀ c ∈ part, c ≠ '\n' ∧ c ≠ '\r' := by
  obtain ⟨part, more, hline, hpart⟩ := List.eq_append_cons_of_mem h
  refine ⟨part, more, hline, fun c hc => ⟨?_, fun hreturn => hpart (hreturn ▸ hc)⟩⟩
  exact ne_lineFeed_of_mem_lastLine (hline ▸ List.mem_append_left _ hc)

/-- The first carriage return on a line is behind the part of the line without one. -/
theorem firstReturn_eq {part more : List Char}
    (hline : lastLine (takeBytes b s.toList) = part ++ '\r' :: more)
    (hpart : ∀ c ∈ part, c ≠ '\n' ∧ c ≠ '\r') :
    firstReturn s (lineStart s b) = lineStart s b + byteLength part := by
  rw [firstReturn, dropBytes_lineStart, hline, List.append_assoc,
    List.takeWhile_append_of_pos fun c hc => decide_eq_true (hpart c hc).2, List.cons_append,
    List.takeWhile_cons_of_neg (by decide), List.append_nil]

/-- The way back from the position of a byte ends at the byte, or at the first carriage
    return on the way to it. -/
theorem byteOfPosition?_positionOfByte (hs : byteLength s.toList < UInt32.size)
    (hb : IsBoundary s.toList b) :
    byteOfPosition? s (positionOfByte s b) =
      some (if '\r' ∈ lastLine (takeBytes b s.toList) then firstReturn s (lineStart s b)
        else b) := by
  split_ifs with hreturn
  · obtain ⟨part, more, hline, hpart⟩ := exists_part_of_return hreturn
    have hunits : unitLength part ≤ unitLength (part ++ '\r' :: more) :=
      unitLength_mono (List.prefix_append ..)
    rw [byteOfPosition?_positionOfByte_eq hs, dropBytes_lineStart, firstReturn_eq hline hpart,
      hline, List.append_assoc, List.cons_append, seekColumn_return _ hpart hunits]
  · have hexact : Exact s b := ⟨hb, hreturn⟩
    exact hexact.byteOfPosition?_eq hs (takeBytes_append_dropBytes b s.toList).symm

/-- A byte is found again exactly if its line has no carriage return in front of it. -/
theorem byteOfPosition?_positionOfByte_eq_self_iff (hs : byteLength s.toList < UInt32.size)
    (hb : IsBoundary s.toList b) :
    byteOfPosition? s (positionOfByte s b) = some b ↔ '\r' ∉ lastLine (takeBytes b s.toList) := by
  rw [byteOfPosition?_positionOfByte hs hb]
  split_ifs with hreturn
  · refine iff_of_false (fun h => ?_) (fun h => h hreturn)
    -- The first carriage return stands in front of the byte.
    obtain ⟨part, more, hline, hpart⟩ := exists_part_of_return hreturn
    have hfirst := firstReturn_eq hline hpart
    have hsum := lineStart_add hb
    have hsize : '\r'.utf8Size = 1 := rfl
    rw [hline, byteLength_append, byteLength_cons, hsize] at hsum
    have := Option.some.inj h
    omega
  · exact iff_of_true rfl hreturn

/-! ### Texts -/

/-- Whether each carriage return of a text is followed by a line feed. -/
def ReturnsPaired (cs : List Char) : Prop :=
  ∀ front rest, cs = front ++ '\r' :: rest → ∃ after, rest = '\n' :: after

/-- What is not in a text is not on the line of a byte. -/
theorem not_mem_lastLine_takeBytes {c : Char} (h : c ∉ s.toList) :
    c ∉ lastLine (takeBytes b s.toList) := fun hc =>
  h ((takeBytes_prefix_self b s.toList).subset
    (linesAbove_append_lastLine (takeBytes b s.toList) ▸ List.mem_append_right _ hc))

/-- Where each carriage return is followed by a line feed, the places behind a carriage
    return on its line are those between the two. -/
theorem return_mem_lastLine_iff (hb : IsBoundary s.toList b) (hpairs : ReturnsPaired s.toList) :
    '\r' ∈ lastLine (takeBytes b s.toList) ↔
      ∃ front after, s.toList = front ++ '\r' :: '\n' :: after ∧ b = byteLength front + 1 := by
  constructor
  · intro hreturn
    obtain ⟨part, more, hline, hpart⟩ := exists_part_of_return hreturn
    have hcut : s.toList = (linesAbove (takeBytes b s.toList) ++ part) ++
        '\r' :: (more ++ dropBytes b s.toList) := by
      have h := toList_eq_lines s b
      rwa [hline, List.append_assoc, List.cons_append, ← List.append_assoc] at h
    obtain ⟨after, hafter⟩ := hpairs _ _ hcut
    cases more with
    | nil =>
      -- The byte is right behind the carriage return.
      have hsum := lineStart_add hb
      rw [hline, byteLength_append] at hsum
      refine ⟨_, after, hafter ▸ hcut, ?_⟩
      rw [byteLength_append, Nat.add_assoc]
      exact hsum.symm
    | cons c more =>
      -- The line feed would be on the line.
      obtain ⟨rfl, -⟩ := List.cons.inj hafter
      have hmem : '\n' ∈ lastLine (takeBytes b s.toList) := by simp [hline]
      exact absurd rfl (ne_lineFeed_of_mem_lastLine hmem)
  · rintro ⟨front, after, hcut, rfl⟩
    have htake : takeBytes (byteLength front + 1) s.toList = front ++ ['\r'] := by
      have h := takeBytes_append (front ++ ['\r']) ('\n' :: after)
      rwa [List.append_assoc, List.singleton_append, ← hcut, byteLength_append] at h
    rw [htake, lastLine, List.rtakeWhile_concat]
    simp

/-- A byte between two characters, or at an end of the text, has a position that leads back
    to it, if the text between the start of its line and the byte has no carriage return.
    Otherwise the position leads to the first carriage return from the start of the line
    on. So every byte of a text without carriage returns is found again; and if each of them
    is followed by a line feed, the bytes that are not are those between the two. -/
theorem round_trip_misses_returns (hs : byteLength s.toList < UInt32.size) :
    (∀ b, IsBoundary s.toList b →
      byteOfPosition? s (positionOfByte s b) =
        some (if '\r' ∈ sliceBytes s.toList (lineStart s b) b then firstReturn s (lineStart s b)
          else b)) ∧
    ('\r' ∉ s.toList →
      ∀ b, IsBoundary s.toList b → byteOfPosition? s (positionOfByte s b) = some b) ∧
    (ReturnsPaired s.toList →
      ∀ b, IsBoundary s.toList b →
        (byteOfPosition? s (positionOfByte s b) ≠ some b ↔
          ∃ front after, s.toList = front ++ '\r' :: '\n' :: after ∧
            b = byteLength front + 1)) := by
  refine ⟨fun b hb => ?_, fun hreturn b hb => ?_, fun hpairs b hb => ?_⟩
  · rw [sliceBytes_lineStart hb, byteOfPosition?_positionOfByte hs hb]
  · rw [byteOfPosition?_positionOfByte_eq_self_iff hs hb]
    exact not_mem_lastLine_takeBytes hreturn
  · rw [Ne, byteOfPosition?_positionOfByte_eq_self_iff hs hb, not_not,
      return_mem_lastLine_iff hb hpairs]

/-- Behind a carriage return on the second line, and between the two characters of a line
    break. -/
theorem round_trip_misses_returns_secondLine :
    byteOfPosition? "é\r\nx\ry" (positionOfByte "é\r\nx\ry" 7) = some 5 ∧
      byteOfPosition? "é\r\nx" (positionOfByte "é\r\nx" 4) = some 4 ∧
      byteOfPosition? "é\r\nx" (positionOfByte "é\r\nx" 3) ≠ some 3 := by
  have hpaired : ReturnsPaired "é\r\nx".toList := by
    intro front rest h
    change ['é', '\r', '\n', 'x'] = _ at h
    rcases front with - | ⟨c, - | ⟨c', front⟩⟩
    · simp at h
    · exact ⟨['x'], (List.cons.inj (List.cons.inj h).2).2.symm⟩
    · -- The rest of the text has no carriage return.
      have hmem : '\r' ∈ ['\n', 'x'] := by simp [(List.cons.inj (List.cons.inj h).2).2]
      simp at hmem
  have hlone := (round_trip_misses_returns (s := "é\r\nx\ry") (by decide)).1 7 (by decide)
  obtain ⟨hfirst, -, hpairs⟩ := round_trip_misses_returns (s := "é\r\nx") (by decide)
  exact ⟨hlone, hfirst 4 (by decide), (hpairs hpaired 3 (by decide)).2 ⟨['é'], ['x'], rfl, rfl⟩⟩

end StyleLens.Text
