import Mathlib.Data.List.Basic
import StyleLens.Text.Measure

/-!
# Lengths and cuts of text

Lengths in bytes and in units add up along a text, and a text is cut at a number
of bytes as it is put together:

* `takeBytes_append`, `dropBytes_append`: a text that was appended to another is
  cut off at the length of that one;
* `takeBytes_prefix_of_le`: the more bytes are taken, the longer the head;
* `prefix_takeBytes`: no longer head of the text has as few bytes;
* `isBoundary_iff`: the boundaries are the lengths of the heads;
* `charUnits_le_utf8Size`: no character has more units than bytes.
-/

namespace StyleLens.Text

variable {m n : Nat}

@[simp]
theorem byteLength_nil : byteLength [] = 0 := rfl

@[simp]
theorem byteLength_cons (c : Char) (cs : List Char) :
    byteLength (c :: cs) = c.utf8Size + byteLength cs := rfl

@[simp]
theorem unitLength_nil : unitLength [] = 0 := rfl

@[simp]
theorem unitLength_cons (c : Char) (cs : List Char) :
    unitLength (c :: cs) = charUnits c + unitLength cs := rfl

@[simp]
theorem byteLength_append (cs ds : List Char) :
    byteLength (cs ++ ds) = byteLength cs + byteLength ds := by
  induction cs with
  | nil => simp
  | cons c cs ih => rw [List.cons_append, byteLength_cons, ih, byteLength_cons, Nat.add_assoc]

@[simp]
theorem unitLength_append (cs ds : List Char) :
    unitLength (cs ++ ds) = unitLength cs + unitLength ds := by
  induction cs with
  | nil => simp
  | cons c cs ih => rw [List.cons_append, unitLength_cons, ih, unitLength_cons, Nat.add_assoc]

/-! ### Units and bytes -/

/-- A character has one unit or two. -/
theorem charUnits_eq_one_or_two (c : Char) : charUnits c = 1 ∨ charUnits c = 2 := by
  unfold charUnits
  split_ifs
  · exact .inl rfl
  · exact .inr rfl

theorem charUnits_pos (c : Char) : 0 < charUnits c := by
  rcases charUnits_eq_one_or_two c with h | h <;> rw [h] <;> decide

/-- A surrogate pair is for a character of four bytes. -/
theorem utf8Size_of_pair {c : Char} (h : charUnits c = 2) : c.utf8Size = 4 := by
  have hplane : ¬c.toNat < 0x10000 := fun hlt => by simp [charUnits, hlt] at h
  rw [Char.utf8Size_eq_four_iff, UInt32.lt_iff_toNat_lt]
  exact Nat.lt_of_lt_of_le (by decide) (Nat.le_of_not_lt hplane)

/-- A character has no more units than bytes. -/
theorem charUnits_le_utf8Size (c : Char) : charUnits c ≤ c.utf8Size := by
  rcases charUnits_eq_one_or_two c with hone | htwo
  · rw [hone]
    exact c.utf8Size_pos
  · rw [htwo, utf8Size_of_pair htwo]
    decide

/-! ### Cuts -/

@[simp]
theorem takeBytes_zero (cs : List Char) : takeBytes 0 cs = [] := by
  cases cs with
  | nil => rfl
  | cons c cs =>
    have := c.utf8Size_pos
    rw [takeBytes, if_neg (by omega)]

@[simp]
theorem dropBytes_zero (cs : List Char) : dropBytes 0 cs = cs := by
  cases cs with
  | nil => rfl
  | cons c cs =>
    have := c.utf8Size_pos
    rw [dropBytes, if_neg (by omega)]

/-- Bytes beyond a text are taken from what is appended to it. -/
theorem takeBytes_append_add (cs ds : List Char) (n : Nat) :
    takeBytes (byteLength cs + n) (cs ++ ds) = cs ++ takeBytes n ds := by
  induction cs with
  | nil => rw [byteLength_nil, Nat.zero_add, List.nil_append, List.nil_append]
  | cons c cs ih =>
    rw [List.cons_append, byteLength_cons, takeBytes, if_pos (by omega), Nat.add_assoc,
      Nat.add_sub_cancel_left, ih, List.cons_append]

/-- Bytes beyond a text are dropped from what is appended to it. -/
theorem dropBytes_append_add (cs ds : List Char) (n : Nat) :
    dropBytes (byteLength cs + n) (cs ++ ds) = dropBytes n ds := by
  induction cs with
  | nil => rw [byteLength_nil, Nat.zero_add, List.nil_append]
  | cons c cs ih =>
    rw [List.cons_append, byteLength_cons, dropBytes, if_pos (by omega), Nat.add_assoc,
      Nat.add_sub_cancel_left, ih]

/-- What was appended to a text is cut off at the length of the text. -/
@[simp]
theorem takeBytes_append (cs ds : List Char) : takeBytes (byteLength cs) (cs ++ ds) = cs := by
  have h := takeBytes_append_add cs ds 0
  rwa [Nat.add_zero, takeBytes_zero, List.append_nil] at h

/-- What was appended to a text is left when the length of the text is dropped. -/
@[simp]
theorem dropBytes_append (cs ds : List Char) : dropBytes (byteLength cs) (cs ++ ds) = ds := by
  have h := dropBytes_append_add cs ds 0
  rwa [Nat.add_zero, dropBytes_zero] at h

/-- The more bytes are taken, the longer the head. -/
theorem takeBytes_prefix_of_le (cs : List Char) (h : m ≤ n) : takeBytes m cs <+: takeBytes n cs := by
  induction cs generalizing m n with
  | nil => exact List.prefix_rfl
  | cons c cs ih =>
    rw [takeBytes, takeBytes]
    split_ifs with hm hn
    · exact List.cons_prefix_cons.2 ⟨rfl, ih (Nat.sub_le_sub_right h _)⟩
    · omega
    · exact List.nil_prefix
    · exact List.prefix_rfl

theorem takeBytes_prefix_self (n : Nat) (cs : List Char) : takeBytes n cs <+: cs :=
  ⟨dropBytes n cs, takeBytes_append_dropBytes n cs⟩

theorem byteLength_takeBytes_le (n : Nat) (cs : List Char) : byteLength (takeBytes n cs) ≤ n := by
  induction cs generalizing n with
  | nil => exact Nat.zero_le n
  | cons c cs ih =>
    rw [takeBytes]
    split_ifs with h
    · have := ih (n - c.utf8Size)
      rw [byteLength_cons]
      omega
    · exact Nat.zero_le n

/-- A head of a text is taken by its length. -/
theorem takeBytes_byteLength {front cs : List Char} (h : front <+: cs) :
    takeBytes (byteLength front) cs = front := by
  obtain ⟨rest, rfl⟩ := h
  exact takeBytes_append front rest

/-- What is taken is the longest head that has at most so many bytes. -/
theorem prefix_takeBytes {front cs : List Char} (h : front <+: cs) (hn : byteLength front ≤ n) :
    front <+: takeBytes n cs := by
  have hlonger := takeBytes_prefix_of_le cs hn
  rwa [takeBytes_byteLength h] at hlonger

/-- The boundaries of a text are the lengths of its heads. -/
theorem isBoundary_iff {cs : List Char} {b : Nat} :
    IsBoundary cs b ↔ ∃ front, front <+: cs ∧ byteLength front = b := by
  constructor
  · intro h
    exact ⟨takeBytes b cs, takeBytes_prefix_self b cs, h⟩
  · rintro ⟨front, hfront, rfl⟩
    rw [IsBoundary, floorByte, takeBytes_byteLength hfront]

/-- What stands between a boundary and a byte behind it goes on up to that byte. -/
theorem takeBytes_append_sliceBytes {cs : List Char} (hm : IsBoundary cs m) (h : m ≤ n) :
    takeBytes m cs ++ sliceBytes cs m n = takeBytes n cs := by
  have hcut : takeBytes m cs ++ dropBytes m cs = cs := takeBytes_append_dropBytes m cs
  have hadd := takeBytes_append_add (takeBytes m cs) (dropBytes m cs) (n - m)
  rw [hcut, show byteLength (takeBytes m cs) = m from hm, Nat.add_sub_cancel' h] at hadd
  exact hadd.symm

theorem byteLength_mono {front cs : List Char} (h : front <+: cs) :
    byteLength front ≤ byteLength cs := by
  obtain ⟨rest, rfl⟩ := h
  rw [byteLength_append]
  exact Nat.le_add_right _ _

theorem unitLength_mono {front cs : List Char} (h : front <+: cs) :
    unitLength front ≤ unitLength cs := by
  obtain ⟨rest, rfl⟩ := h
  rw [unitLength_append]
  exact Nat.le_add_right _ _

end StyleLens.Text
