import StyleLens.Proofs.Text.Position

/-!
# Places that positions name exactly

A column ends at the first carriage return of its line. So a byte can be found
again from its position if it lies between two characters and no carriage return
stands in front of it on its line (`Text.Exact`).

Such a position is found by counting along the text in front of the byte, and
what follows the byte has no part in it: the position leads to the same byte of
any text that starts in the same way (`Text.byteOfPosition?_of_front`).
-/

namespace StyleLens

theorem Position.le_antisymm {p q : Position} (h : p ≤ q) (h' : q ≤ p) : p = q := by
  obtain ⟨line, character⟩ := p
  obtain ⟨line', character'⟩ := q
  rcases h with hlt | ⟨rfl, hle⟩
  · rcases h' with hlt' | ⟨heq, -⟩
    · exact absurd hlt' (UInt32.lt_asymm hlt)
    · exact absurd heq.symm (UInt32.ne_of_lt hlt)
  · rcases h' with hlt' | ⟨-, hle'⟩
    · exact absurd hlt' (UInt32.lt_irrefl _)
    · exact congrArg (Position.mk line) (UInt32.le_antisymm hle hle')

namespace Text

/-- Whether byte `b` of `s` can be named by a position. -/
def Exact (s : String) (b : Nat) : Prop :=
  IsBoundary s.toList b ∧ '\r' ∉ lastLine (takeBytes b s.toList)

instance (s : String) (b : Nat) : Decidable (Exact s b) :=
  inferInstanceAs (Decidable (_ ∧ _))

/-- The head of a text up to a boundary has the length that was asked for. -/
theorem Exact.byteLength_takeBytes {s : String} {b : Nat} (h : Exact s b) :
    byteLength (takeBytes b s.toList) = b := h.1

theorem seekColumn_zero (cs : List Char) : seekColumn cs 0 = 0 := by
  cases cs with
  | nil => rfl
  | cons c cs => exact if_pos (.inl rfl)

/-- Units beyond a part of a line without line breaks are counted along what is
    appended to it. -/
theorem seekColumn_append_add {line : List Char} (rest : List Char) (n : Nat)
    (hbreak : ∀ c ∈ line, c ≠ '\n' ∧ c ≠ '\r') :
    seekColumn (line ++ rest) (unitLength line + n) = byteLength line + seekColumn rest n := by
  induction line with
  | nil => simp
  | cons c line ih =>
    have hc := hbreak c List.mem_cons_self
    have hunits := charUnits_pos c
    have hgoes : ¬(charUnits c + (unitLength line + n) = 0 ∨ c = '\n' ∨ c = '\r') := by
      rintro (h | h)
      · omega
      · exact h.elim hc.1 hc.2
    rw [List.cons_append, unitLength_cons, Nat.add_assoc, seekColumn, if_neg hgoes,
      Nat.add_sub_cancel_left, ih fun c h => hbreak c (List.mem_cons_of_mem _ h), byteLength_cons,
      Nat.add_assoc]

/-- The walk along a line goes as far as its column says, if no line break is on
    the way. -/
theorem seekColumn_append {line : List Char} (rest : List Char)
    (hbreak : ∀ c ∈ line, c ≠ '\n' ∧ c ≠ '\r') :
    seekColumn (line ++ rest) (unitLength line) = byteLength line := by
  have h := seekColumn_append_add rest 0 hbreak
  rwa [seekColumn_zero, Nat.add_zero, Nat.add_zero] at h

/-- The line behind the last one of `front` starts past `front`, or there is none and
    the text ends there. -/
theorem byteLength_le_next_start (front rest : List Char) :
    byteLength front ≤ (lineStarts (front ++ rest)).getD ((placeAfter front).1 + 1)
      (byteLength (front ++ rest)) := by
  rw [lineStarts_append, ← length_lineStarts, List.getD_append_right _ _ _ _ le_rfl, Nat.sub_self,
    byteLength_append]
  exact le_getD_startsAfter _ _

/-- The position at the end of `front` leads there in any text that starts with
    `front`. -/
theorem byteOfPosition?_of_front {s : String} {front rest : List Char}
    (hs : s.toList = front ++ rest) (hreturn : '\r' ∉ lastLine front) {p : Position}
    (hline : p.line.toNat = (placeAfter front).1)
    (hcolumn : p.character.toNat = (placeAfter front).2) :
    byteOfPosition? s p = some (byteLength front) := by
  have hstart := getElem?_lineStarts_append front rest
  -- The line goes on at least to the end of `front`: it is the last line of `front`
  -- and then some of the rest.
  obtain ⟨n, hstop⟩ := Nat.exists_eq_add_of_le (byteLength_le_next_start front rest)
  have hbreak : ∀ c ∈ lastLine front, c ≠ '\n' ∧ c ≠ '\r' := fun c hc =>
    ⟨ne_lineFeed_of_mem_lastLine hc, fun h => hreturn (h ▸ hc)⟩
  rw [byteOfPosition?]
  simp only [hs, hline, hstart, hstop, sliceBytes_linesAbove, hcolumn, placeAfter_snd,
    Option.map_some]
  rw [seekColumn_append _ hbreak, byteLength_linesAbove_add]

variable {s : String} {b c : Nat}

/-- The position of an exact place leads to the same byte of any text that agrees
    with this one up to there. -/
theorem Exact.byteOfPosition?_eq (hb : Exact s b) (hs : byteLength s.toList < UInt32.size)
    {t : String} {rest : List Char} (ht : t.toList = takeBytes b s.toList ++ rest) :
    byteOfPosition? t (positionOfByte s b) = some b := by
  obtain ⟨hline, hcolumn⟩ := toNat_positionOfByte hs b
  rw [byteOfPosition?_of_front ht hb.2 hline hcolumn, hb.byteLength_takeBytes]

/-- Exact places are in the order of their positions. -/
theorem Exact.le_of_positionOfByte_le (hb : Exact s b) (hc : Exact s c)
    (hs : byteLength s.toList < UInt32.size) (h : positionOfByte s b ≤ positionOfByte s c) :
    b ≤ c := by
  by_contra hlt
  have hge : positionOfByte s c ≤ positionOfByte s b := positionOfByte_mono hs (by omega)
  have hsame : positionOfByte s b = positionOfByte s c := Position.le_antisymm h hge
  have hb' := hb.byteOfPosition?_eq hs (takeBytes_append_dropBytes b s.toList).symm
  have hc' := hc.byteOfPosition?_eq hs (takeBytes_append_dropBytes c s.toList).symm
  rw [hsame, hc'] at hb'
  exact hlt (Option.some.inj hb').ge

end Text

end StyleLens
