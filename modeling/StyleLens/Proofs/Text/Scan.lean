import Mathlib.Order.Bounds.Defs
import StyleLens.Proofs.Text.Position

/-!
# Lines by a plain scan

The index of lines is made once for a text, and lines and rows are looked up in it.
A reader without an index counts line feeds in front of the place, and takes what
stands behind the last one. Positions are so counted in characters, and points in the
bytes of the text in UTF-8, where a place may be inside of a character. The index
gives the same answers (`Text.index_is_plain_scan`):

* `pairwise_lineStarts`, `searchedLine_iff`: the index is in order, so that a search by
  halves in it, whether it meets the byte or the gap that it belongs in, leads to the
  line that is looked up;
* `take_encode`: the bytes in front of a place are those of the characters in front of
  it, and then a part of a character, which has no line feed;
* `pointOfByte_eq`: the point of a byte is counted along the text in front of it.
-/

namespace StyleLens.Text

/-! ### Search in the index -/

/-- The line that a search for byte `b` in an index of lines leads to: the one that starts
    at the byte; or, if there is none, the one in front of the place where it would
    stand. -/
inductive SearchedLine (starts : List Nat) (b : Nat) : Nat → Prop
  | found {front back : List Nat} (h : starts = front ++ b :: back) :
      SearchedLine starts b front.length
  | missed {front back : List Nat} (h : starts = front ++ back) (hfront : ∀ x ∈ front, x < b)
      (hback : ∀ x ∈ back, b < x) : SearchedLine starts b (front.length - 1)

variable {starts : List Nat} {b l : Nat}

/-- In an index that is in order, a search leads to the line of the byte. -/
theorem SearchedLine.lineOfByte_eq (h : SearchedLine starts b l)
    (hstarts : starts.Pairwise (· < ·)) : lineOfByte starts b = l := by
  rcases h with @⟨front, back, rfl⟩ | @⟨front, back, rfl, hfront, hback⟩
  · rw [List.pairwise_append, List.pairwise_cons] at hstarts
    obtain ⟨-, ⟨hback, -⟩, hfront⟩ := hstarts
    have hwithin : ∀ x ∈ front ++ [b], x ≤ b := by
      intro x hx
      rcases List.mem_append.1 hx with hx | hx
      · exact (hfront x hx b List.mem_cons_self).le
      · exact (List.mem_singleton.1 hx).le
    rw [List.append_cons, lineOfByte, takeWhile_le_append hwithin hback, List.length_append]
    rfl
  · rw [lineOfByte, takeWhile_le_append (fun x hx => (hfront x hx).le) hback]

/-- Behind the lines that start at or before the byte, all lines start past it. -/
theorem lt_of_mem_dropWhile (hstarts : starts.Pairwise (· < ·)) {x : Nat}
    (hx : x ∈ starts.dropWhile (· ≤ b)) : b < x := by
  induction starts with
  | nil => cases hx
  | cons y starts ih =>
    obtain ⟨hbehind, hstarts⟩ := List.pairwise_cons.1 hstarts
    rw [List.dropWhile_cons] at hx
    split_ifs at hx with hy
    · exact ih hstarts hx
    · have hlt : b < y := by simpa using hy
      rcases List.mem_cons.1 hx with rfl | hx
      · exact hlt
      · exact hlt.trans (hbehind x hx)

/-- A search in an index that is in order leads to some line. -/
theorem exists_searchedLine (hstarts : starts.Pairwise (· < ·)) (b : Nat) :
    ∃ l, SearchedLine starts b l := by
  by_cases hb : b ∈ starts
  · obtain ⟨front, back, h⟩ := List.append_of_mem hb
    exact ⟨front.length, .found h⟩
  · refine ⟨_, .missed (List.takeWhile_append_dropWhile (p := (· ≤ b))).symm ?_
      fun x => lt_of_mem_dropWhile hstarts⟩
    intro x hx
    have hle : x ≤ b := by simpa using List.mem_takeWhile_imp hx
    have hne : x ≠ b := fun h => hb (h ▸ List.takeWhile_subset _ hx)
    omega

theorem searchedLine_iff (hstarts : starts.Pairwise (· < ·)) :
    SearchedLine starts b l ↔ lineOfByte starts b = l := by
  refine ⟨fun h => h.lineOfByte_eq hstarts, ?_⟩
  rintro rfl
  obtain ⟨l, h⟩ := exists_searchedLine hstarts b
  rwa [h.lineOfByte_eq hstarts]

/-- Lines start one after another. -/
theorem pairwise_startsAfter (b : Nat) (cs : List Char) :
    (startsAfter b cs).Pairwise (· < ·) := by
  induction cs generalizing b with
  | nil => exact .nil
  | cons c cs ih =>
    rw [startsAfter]
    split_ifs
    · exact .cons (fun x hx => lt_of_mem_startsAfter hx) (ih _)
    · exact ih _

theorem pairwise_lineStarts (cs : List Char) : (lineStarts cs).Pairwise (· < ·) :=
  .cons (fun _ hx => lt_of_mem_startsAfter hx) (pairwise_startsAfter 0 cs)

/-! ### Line feeds -/

/-- The line after a text is the number of its line feeds. -/
theorem placeAfter_fst (cs : List Char) : (placeAfter cs).1 = cs.count '\n' := by
  induction cs using List.reverseRecOn with
  | nil => rfl
  | append_singleton cs c ih =>
    rw [placeAfter_concat, List.count_append, ← ih, advance]
    split_ifs with hc
    · rw [hc]
      rfl
    · rw [List.count_singleton, if_neg (by simpa using hc), Nat.add_zero]

/-! ### Bytes -/

/-- Characters in UTF-8. -/
def encode (cs : List Char) : List UInt8 := cs.flatMap String.utf8EncodeChar

/-- The bytes of a text. -/
def bytes (s : String) : List UInt8 := s.toByteArray.data.toList

theorem bytes_eq (s : String) : bytes s = encode s.toList := by
  have hs : s.toByteArray = s.toList.utf8Encode := by
    rw [← String.toByteArray_ofList, String.ofList_toList]
  rw [bytes, hs, List.utf8Encode, List.data_toByteArray, encode]

theorem encode_cons (c : Char) (cs : List Char) :
    encode (c :: cs) = String.utf8EncodeChar c ++ encode cs := List.flatMap_cons

theorem encode_append (cs ds : List Char) : encode (cs ++ ds) = encode cs ++ encode ds :=
  List.flatMap_append

theorem encode_singleton (c : Char) : encode [c] = String.utf8EncodeChar c := List.append_nil _

theorem length_encode (cs : List Char) : (encode cs).length = byteLength cs := by
  induction cs with
  | nil => rfl
  | cons c cs ih =>
    rw [encode_cons, List.length_append, String.length_utf8EncodeChar, ih, byteLength_cons]

theorem utf8EncodeChar_lineFeed : String.utf8EncodeChar '\n' = [10] := by decide

/-- A byte with its first bit set is not that of a line feed. -/
theorem or_ne_lineFeed {m : UInt8} (hm : m.toBitVec[7] = true) (x : UInt8) : 10 ≠ x ||| m := by
  intro h
  have hbit := congrArg (fun y : UInt8 => y.toBitVec[7]) h
  simp [hm] at hbit

/-- No other character has the byte of a line feed: it has one byte, its own, or bytes with
    their first bits set. -/
theorem not_mem_utf8EncodeChar {c : Char} (hc : c ≠ '\n') : 10 ∉ String.utf8EncodeChar c := by
  rcases c.utf8Size_eq with h | h | h | h
  · rw [String.utf8EncodeChar_eq_singleton h, List.mem_singleton, ← UInt8.toNat_inj,
      UInt32.toNat_toUInt8]
    rw [Char.utf8Size_eq_one_iff, UInt32.le_iff_toNat_le] at h
    intro hten
    refine hc (Char.toNat_inj.1 ?_)
    change c.val.toNat = 10
    change c.val.toNat ≤ 127 at h
    change 10 = c.val.toNat % 256 at hten
    omega
  · rw [String.utf8EncodeChar_eq_cons_cons h]
    simp [or_ne_lineFeed]
  · rw [String.utf8EncodeChar_eq_cons_cons_cons h]
    simp [or_ne_lineFeed]
  · rw [String.utf8EncodeChar_eq_cons_cons_cons_cons h]
    simp [or_ne_lineFeed]

/-- The bytes in front of a place are those of the characters in front of it, and then a
    part of a character, which has no line feed. -/
theorem take_encode (n : Nat) (cs : List Char) :
    ∃ part, (encode cs).take n = encode (takeBytes n cs) ++ part ∧ 10 ∉ part := by
  induction cs generalizing n with
  | nil => exact ⟨[], List.take_nil, List.not_mem_nil⟩
  | cons c cs ih =>
    rw [encode_cons, takeBytes, List.take_append, String.length_utf8EncodeChar]
    split_ifs with hc
    · obtain ⟨part, hpart, hnone⟩ := ih (n - c.utf8Size)
      refine ⟨part, ?_, hnone⟩
      rw [hpart, encode_cons, List.append_assoc,
        List.take_of_length_le (by rwa [String.length_utf8EncodeChar])]
    · refine ⟨(String.utf8EncodeChar c).take n, ?_, fun h => ?_⟩
      · rw [Nat.sub_eq_zero_of_le (by omega), List.take_zero, List.append_nil]
        rfl
      · by_cases hfeed : c = '\n'
        · -- A line feed is one byte, and there is no part of it.
          have hzero : n = 0 := by
            have hsize : '\n'.utf8Size = 1 := rfl
            rw [hfeed, hsize] at hc
            omega
          rw [hzero, List.take_zero] at h
          cases h
        · exact not_mem_utf8EncodeChar hfeed (List.mem_of_mem_take h)

/-- Line feeds are counted alike in characters and in bytes. -/
theorem count_encode (cs : List Char) : (encode cs).count 10 = cs.count '\n' := by
  induction cs with
  | nil => rfl
  | cons c cs ih =>
    rw [encode_cons, List.count_append, ih, List.count_cons]
    by_cases hc : c = '\n'
    · rw [hc, utf8EncodeChar_lineFeed, Nat.add_comm]
      rfl
    · rw [List.count_eq_zero.2 (not_mem_utf8EncodeChar hc), Nat.zero_add,
        if_neg (by simpa using hc), Nat.add_zero]

/-- What goes on without a stop has no part in where the last stop is. -/
theorem rdropWhile_append_of_pos {α : Type} {p : α → Bool} {xs ys : List α}
    (h : ∀ y ∈ ys, p y) : (xs ++ ys).rdropWhile p = xs.rdropWhile p := by
  rw [List.rdropWhile, List.reverse_append,
    List.dropWhile_append_of_pos fun y hy => h y (List.mem_reverse.1 hy), List.rdropWhile]

/-- The last line feed is found at the same place in characters and in bytes. -/
theorem rdropWhile_encode (cs : List Char) :
    (encode cs).rdropWhile (· ≠ 10) = encode (linesAbove cs) := by
  induction cs using List.reverseRecOn with
  | nil => rfl
  | append_singleton cs c ih =>
    rw [encode_append, encode_singleton, linesAbove, List.rdropWhile_concat]
    by_cases hc : c = '\n'
    · rw [if_neg (by simpa using hc), encode_append, encode_singleton, hc, utf8EncodeChar_lineFeed,
        List.rdropWhile_concat_neg _ _ _ (by decide)]
    · have hother : ∀ x ∈ String.utf8EncodeChar c, decide (x ≠ 10) = true := by
        intro x hx
        exact decide_eq_true fun h => not_mem_utf8EncodeChar hc (h ▸ hx)
      rw [rdropWhile_append_of_pos hother, ih, if_pos (by simpa using hc), linesAbove]

variable (s : String)

theorem length_bytes : (bytes s).length = byteLength s.toList := by
  rw [bytes_eq, length_encode]

theorem count_take_bytes (n : Nat) :
    ((bytes s).take n).count 10 = (takeBytes n s.toList).count '\n' := by
  obtain ⟨part, hpart, hnone⟩ := take_encode n s.toList
  rw [bytes_eq, hpart, List.count_append, count_encode, List.count_eq_zero.2 hnone, Nat.add_zero]

theorem length_rdropWhile_take_bytes (n : Nat) :
    (((bytes s).take n).rdropWhile (· ≠ 10)).length =
      byteLength (linesAbove (takeBytes n s.toList)) := by
  obtain ⟨part, hpart, hnone⟩ := take_encode n s.toList
  have hother : ∀ x ∈ part, decide (x ≠ 10) = true := fun x hx =>
    decide_eq_true fun h => hnone (h ▸ hx)
  rw [bytes_eq, hpart, rdropWhile_append_of_pos hother, rdropWhile_encode, length_encode]

/-! ### Places -/

/-- The text in front of a byte is the head that goes up to the last end of a head at or
    before the byte. -/
theorem isGreatest_takeBytes (b : Nat) (cs : List Char) :
    IsGreatest {k | k ≤ min b (byteLength cs) ∧ ∃ head, head <+: cs ∧ byteLength head = k}
      (byteLength (takeBytes b cs)) := by
  have hhead := takeBytes_prefix_self b cs
  refine ⟨⟨?_, takeBytes b cs, hhead, rfl⟩, ?_⟩
  · exact le_min (byteLength_takeBytes_le b cs) (byteLength_mono hhead)
  · rintro k ⟨hle, head, hprefix, rfl⟩
    exact byteLength_mono (prefix_takeBytes hprefix (hle.trans (min_le_left _ _)))

/-- The point of a byte is counted along the text in front of it. -/
theorem pointOfByte_eq (b : Nat) :
    pointOfByte s b =
      ⟨(takeBytes (min b (byteLength s.toList)) s.toList).count '\n',
        min b (byteLength s.toList) -
          byteLength (linesAbove (takeBytes (min b (byteLength s.toList)) s.toList))⟩ := by
  generalize hn : min b (byteLength s.toList) = n
  have hstart := getElem?_lineStarts_append (takeBytes n s.toList) (dropBytes n s.toList)
  rw [takeBytes_append_dropBytes, placeAfter_fst] at hstart
  rw [pointOfByte]
  simp only [hn, lineOfByte_lineStarts, placeAfter_fst, List.getD_eq_getElem?_getD, hstart,
    Option.getD_some]

/-- The index of lines agrees with a plain scan. There is one line, and one more for each
    line feed. However a byte is searched in the index, the same line is found. The position
    of a byte is counted along the head of the text up to the last boundary at or before the
    byte: its line is the number of line feeds, and its column the number of units behind
    the last of them, both in 32 bits. The point of a byte is counted along the bytes in
    front of it: its row is the number of line feeds, and its column the number of bytes
    behind the last of them. So positions are in the order of the bytes, and a range of
    bytes is a range in order, where no line and no column wraps. -/
theorem index_is_plain_scan :
    lineCount s = 1 + s.toList.count '\n' ∧
    (∀ b l, SearchedLine (lineStarts s.toList) b l ↔ lineOfByte (lineStarts s.toList) b = l) ∧
    (∀ b, ∃ front, front <+: s.toList ∧
      IsGreatest {k | k ≤ min b (bytes s).length ∧ ∃ head, head <+: s.toList ∧ byteLength head = k}
        (byteLength front) ∧
      (positionOfByte s b).line.toNat = front.count '\n' % UInt32.size ∧
      (positionOfByte s b).character.toNat = unitLength (lastLine front) % UInt32.size) ∧
    (∀ b, (pointOfByte s b).row = ((bytes s).take (min b (bytes s).length)).count 10 ∧
      (pointOfByte s b).column = min b (bytes s).length -
        (((bytes s).take (min b (bytes s).length)).rdropWhile (· ≠ 10)).length) ∧
    (byteLength s.toList < UInt32.size → ∀ i j, i ≤ j →
      positionOfByte s i ≤ positionOfByte s j ∧
        (rangeOfBytes s i j).start ≤ (rangeOfBytes s i j).stop) := by
  rw [length_bytes]
  refine ⟨?_, fun b l => searchedLine_iff (pairwise_lineStarts s.toList), fun b => ?_, fun b => ?_,
    fun hs i j hij => ?_⟩
  · rw [lineCount, length_lineStarts, placeAfter_fst, Nat.add_comm]
  · refine ⟨takeBytes b s.toList, takeBytes_prefix_self b s.toList, isGreatest_takeBytes b s.toList,
      ?_⟩
    rw [positionOfByte_eq, placeAfter_fst, placeAfter_snd]
    exact ⟨UInt32.toNat_ofNat', UInt32.toNat_ofNat'⟩
  · rw [count_take_bytes, length_rdropWhile_take_bytes, pointOfByte_eq]
    exact ⟨rfl, rfl⟩
  · have hmono := positionOfByte_mono hs hij
    exact ⟨hmono, hmono⟩

example : pointOfByte "é\n\n😀x" 6 = ⟨2, 2⟩ ∧ positionOfByte "é\n\n😀x" 6 = ⟨2, 0⟩ := by decide

end StyleLens.Text
