import Mathlib.Order.Monotone.Defs
import StyleLens.Proofs.Text.Exact

/-!
# Offsets and bytes

Offsets and bytes count along the same characters, in units and in bytes. Where a
head of the text ends, its length in units leads to its length in bytes and back
(`Text.byteOfOffset?_of_front`, `Text.offsetOfByte_of_front`). There is one more kind
of offset, inside of a character that is written as a surrogate pair
(`Text.InsidePair`), and it leads to the start of the character; an offset of the
text is of one of the two kinds (`Text.atEnd_or_inPair`).
-/

namespace StyleLens.Text

variable {s : String} {o : Nat}

/-! ### Along the characters -/

/-- Units beyond a text are counted along what is appended to it. -/
theorem seekOffset?_append_add (front rest : List Char) (n : Nat) :
    seekOffset? (front ++ rest) (unitLength front + n) =
      (seekOffset? rest n).map (byteLength front + ·) := by
  induction front with
  | nil => simp
  | cons c front ih =>
    have hbeyond : ¬unitLength (c :: front) + n < charUnits c := by
      rw [unitLength_cons]
      omega
    have hrest : unitLength (c :: front) + n - charUnits c = unitLength front + n := by
      rw [unitLength_cons]
      omega
    rw [List.cons_append, seekOffset?, if_neg hbeyond, hrest, ih, Option.map_map, byteLength_cons]
    congr 1
    funext b
    exact (Nat.add_assoc ..).symm

theorem seekOffset?_zero (cs : List Char) : seekOffset? cs 0 = some 0 := by
  cases cs with
  | nil => rfl
  | cons c cs => exact if_pos (charUnits_pos c)

/-- An offset that is less than a character has units is at the start of it. -/
theorem seekOffset?_of_lt {c : Char} (h : o < charUnits c) (cs : List Char) :
    seekOffset? (c :: cs) o = some 0 := if_pos h

/-- An offset of a text is where a head of it ends, or one unit further, inside of the
    character that follows. -/
theorem atEnd_or_inPair {cs : List Char} (h : o ≤ unitLength cs) :
    ∃ front rest, cs = front ++ rest ∧
      (o = unitLength front ∨
        o = unitLength front + 1 ∧ ∃ c after, rest = c :: after ∧ charUnits c = 2) := by
  induction cs generalizing o with
  | nil => exact ⟨[], [], rfl, .inl (Nat.le_zero.1 h)⟩
  | cons c cs ih =>
    rw [unitLength_cons] at h
    by_cases hc : charUnits c ≤ o
    · obtain ⟨front, rest, rfl, ho⟩ := ih (show o - charUnits c ≤ unitLength cs by omega)
      refine ⟨c :: front, rest, rfl, ?_⟩
      rw [unitLength_cons]
      rcases ho with ho | ⟨ho, hpair⟩
      · exact .inl (by omega)
      · exact .inr ⟨by omega, hpair⟩
    · refine ⟨[], c :: cs, rfl, ?_⟩
      rw [unitLength_nil]
      rcases charUnits_eq_one_or_two c with hone | htwo
      · exact .inl (by omega)
      · by_cases ho : o = 0
        · exact .inl ho
        · exact .inr ⟨by omega, c, cs, rfl, htwo⟩

/-- A greater offset leads to a later byte. -/
theorem seekOffset?_mono {cs : List Char} {o o' b b' : Nat} (h : o ≤ o')
    (hb : seekOffset? cs o = some b) (hb' : seekOffset? cs o' = some b') : b ≤ b' := by
  induction cs generalizing o o' b b' with
  | nil =>
    rw [seekOffset?] at hb
    split_ifs at hb
    cases hb
    exact Nat.zero_le b'
  | cons c cs ih =>
    rw [seekOffset?] at hb hb'
    split_ifs at hb with hc
    · cases hb
      exact Nat.zero_le b'
    · rw [if_neg (by omega)] at hb'
      obtain ⟨d, hd, rfl⟩ := Option.map_eq_some_iff.1 hb
      obtain ⟨d', hd', rfl⟩ := Option.map_eq_some_iff.1 hb'
      exact Nat.add_le_add_left (ih (Nat.sub_le_sub_right h _) hd hd') _

/-! ### Offsets of a text -/

/-- Whether offset `o` of `s` lies inside of a character that is written as a surrogate
    pair. -/
def InsidePair (s : String) (o : Nat) : Prop :=
  ∃ front c rest, s.toList = front ++ c :: rest ∧ charUnits c = 2 ∧ o = unitLength front + 1

variable {front rest : List Char}

/-- The offset where a head of the text ends leads to the byte there. -/
theorem byteOfOffset?_of_front (hs : s.toList = front ++ rest) :
    byteOfOffset? s (unitLength front) = some (byteLength front) := by
  have h := seekOffset?_append_add front rest 0
  rw [seekOffset?_zero, Option.map_some, Nat.add_zero, Nat.add_zero] at h
  rw [byteOfOffset?, hs, h]

/-- An offset inside of a character leads to the start of it. -/
theorem byteOfOffset?_of_pair {c : Char} (hs : s.toList = front ++ c :: rest)
    (hc : charUnits c = 2) : byteOfOffset? s (unitLength front + 1) = some (byteLength front) := by
  rw [byteOfOffset?, hs, seekOffset?_append_add, seekOffset?_of_lt (by omega), Option.map_some,
    Nat.add_zero]

/-- The byte where a head of the text ends leads to the offset there. -/
theorem offsetOfByte_of_front (hs : s.toList = front ++ rest) :
    offsetOfByte s (byteLength front) = unitLength front := by
  rw [offsetOfByte, hs, takeBytes_append]

/-- No head of the text ends inside of a character. -/
theorem not_insidePair_of_front (hs : s.toList = front ++ rest) :
    ¬InsidePair s (unitLength front) := by
  rintro ⟨front', c, rest', hs', hc, ho⟩
  -- The two heads lead to the same byte by one offset, yet they differ in length.
  have hbyte := (byteOfOffset?_of_front hs).symm.trans (ho ▸ byteOfOffset?_of_pair hs' hc)
  have hunits := offsetOfByte_of_front hs
  rw [Option.some.inj hbyte, offsetOfByte_of_front hs'] at hunits
  omega

/-- Every offset of a text leads to a boundary, and from there back to the offset, or to
    the one before it if it lies inside of a surrogate pair. -/
theorem exists_byteOfOffset? (h : o ≤ units s) :
    ∃ b, byteOfOffset? s o = some b ∧ IsBoundary s.toList b ∧ b ≤ byteLength s.toList ∧
      (¬InsidePair s o → offsetOfByte s b = o) ∧ (InsidePair s o → offsetOfByte s b = o - 1) := by
  obtain ⟨front, rest, hs, ho⟩ := atEnd_or_inPair h
  have hprefix : front <+: s.toList := hs ▸ List.prefix_append front rest
  refine ⟨byteLength front, ?_, isBoundary_iff.2 ⟨front, hprefix, rfl⟩,
    byteLength_mono hprefix, ?_⟩
  · rcases ho with rfl | ⟨rfl, c, after, rfl, hc⟩
    · exact byteOfOffset?_of_front hs
    · exact byteOfOffset?_of_pair hs hc
  · rw [offsetOfByte_of_front hs]
    rcases ho with rfl | ⟨rfl, c, after, rfl, hc⟩
    · exact ⟨fun _ => rfl, fun hpair => absurd hpair (not_insidePair_of_front hs)⟩
    · exact ⟨fun hpair => absurd ⟨front, c, after, hs, hc, rfl⟩ hpair, fun _ => rfl⟩

/-- A boundary is found again from its offset. -/
theorem byteOfOffset?_offsetOfByte {b : Nat} (h : IsBoundary s.toList b) :
    byteOfOffset? s (offsetOfByte s b) = some b := by
  obtain ⟨front, ⟨rest, hs⟩, rfl⟩ := isBoundary_iff.1 h
  rw [offsetOfByte_of_front hs.symm, byteOfOffset?_of_front hs.symm]

theorem offsetOfByte_mono (s : String) : Monotone (offsetOfByte s) := fun _ _ h =>
  unitLength_mono (takeBytes_prefix_of_le s.toList h)

/-- Offsets and bytes are inverse to each other. An offset has a byte unless it is past
    the end of the text; the byte is a boundary, and leads back to the offset, or to the
    start of its character if the offset lies inside of a surrogate pair. A byte has the
    offset that the longest head of at most so many bytes has units, and a boundary is
    found again from its offset. Both keep the order. -/
theorem offsets_and_bytes_are_inverse (s : String) :
    (∀ o, byteOfOffset? s o = none ↔ units s < o) ∧
    (∀ o ≤ units s, ∃ b, byteOfOffset? s o = some b ∧ IsBoundary s.toList b ∧
      b ≤ byteLength s.toList ∧
      (¬InsidePair s o → offsetOfByte s b = o) ∧ (InsidePair s o → offsetOfByte s b = o - 1)) ∧
    (∀ b, ∃ front, front <+: s.toList ∧ byteLength front ≤ b ∧
      (∀ head, head <+: s.toList → byteLength head ≤ b → head <+: front) ∧
      offsetOfByte s b = unitLength front) ∧
    (∀ b, IsBoundary s.toList b → byteOfOffset? s (offsetOfByte s b) = some b) ∧
    (∀ o o' b b', o ≤ o' → byteOfOffset? s o = some b → byteOfOffset? s o' = some b' → b ≤ b') ∧
    Monotone (offsetOfByte s) := by
  refine ⟨byteOfOffset?_eq_none_iff s, fun o => exists_byteOfOffset?, fun b => ?_,
    fun b => byteOfOffset?_offsetOfByte, fun o o' b b' => seekOffset?_mono, offsetOfByte_mono s⟩
  exact ⟨takeBytes b s.toList, takeBytes_prefix_self b s.toList, byteLength_takeBytes_le b s.toList,
    fun head => prefix_takeBytes, rfl⟩

example : [0, 1, 2, 3, 4, 5].map (byteOfOffset? "é😀x") =
    [some 0, some 2, some 2, some 6, some 7, none] := by decide

end StyleLens.Text
