import StyleLens.Preview.Outline

/-!
# The lower end of an outline

A depth names a place at the lower end of an outline only if the end is deep
enough (`Outline.Open`): an item fits at depth `0`, and at a depth `d + 1` if the
last item at depth `d` is there to hold it.

* `Outline.open_succ_addAt`: below an item that was added, there is room;
* `Outline.modifyAt_addAt`: to change the item that was added last is to add the
  changed item;
* `Outline.entries_addAt`: an item that is added is drawn last.
-/

namespace StyleLens.Outline

variable {α : Type} {d : Nat} {v : α} {os : List (Outline α)}

/-- Whether there is room for an item at depth `d` of the lower end. -/
def Open : Nat → List (Outline α) → Prop
  | 0, _ => True
  | d + 1, os => ∃ v below, os.getLast? = some (item v below) ∧ Open d below

/-- Where there is room, there is room further out. -/
theorem Open.of_succ (h : Open (d + 1) os) : Open d os := by
  induction d generalizing os with
  | zero => trivial
  | succ d ih =>
    obtain ⟨v, below, hlast, hbelow⟩ := h
    exact ⟨v, below, hlast, ih hbelow⟩

theorem addAt_zero (v : α) (os : List (Outline α)) : addAt 0 v os = os ++ [item v []] := by
  rw [addAt]

theorem addAt_succ {w : α} {below : List (Outline α)} (v : α)
    (h : os.getLast? = some (item w below)) :
    addAt (d + 1) v os = os.dropLast ++ [item w (addAt d v below)] := by
  rw [addAt, h]

/-- Below an item that was added, there is room. -/
theorem open_succ_addAt (v : α) (h : Open d os) : Open (d + 1) (addAt d v os) := by
  induction d generalizing os with
  | zero => exact ⟨v, [], by rw [addAt_zero, List.getLast?_concat], trivial⟩
  | succ d ih =>
    obtain ⟨w, below, hlast, hbelow⟩ := h
    exact ⟨w, addAt d v below, by rw [addAt_succ v hlast, List.getLast?_concat], ih hbelow⟩

/-- To change the item that was added last is to add the changed item. -/
theorem modifyAt_addAt (f : α → α) (v : α) (h : Open d os) :
    modifyAt d f (addAt d v os) = addAt d (f v) os := by
  induction d generalizing os with
  | zero => rw [addAt_zero, modifyAt, List.getLast?_concat, addAt_zero]; simp
  | succ d ih =>
    obtain ⟨w, below, hlast, hbelow⟩ := h
    rw [addAt_succ v hlast, modifyAt, List.getLast?_concat, addAt_succ (f v) hlast]
    simp [ih hbelow]

/-! ### The order of drawing -/

theorem entries_append (k : Nat) (os ps : List (Outline α)) :
    entries k (os ++ ps) = entries k os ++ entries k ps := by
  induction os with
  | nil => rw [entries, List.nil_append, List.nil_append]
  | cons o os ih => rw [List.cons_append, entries, entries, ih, List.append_assoc]

theorem entries_singleton (k : Nat) (v : α) (below : List (Outline α)) :
    entries k [item v below] = (k, v) :: entries (k + 1) below := by
  rw [entries, entriesOf, entries, List.append_nil]

/-- An item that is added at the lower end is drawn last, at its depth. -/
theorem entries_addAt (k : Nat) (v : α) (h : Open d os) :
    entries k (addAt d v os) = entries k os ++ [(k + d, v)] := by
  induction d generalizing k os with
  | zero => rw [addAt_zero, entries_append, entries_singleton, entries, Nat.add_zero]
  | succ d ih =>
    obtain ⟨w, below, hlast, hbelow⟩ := h
    rw [addAt_succ v hlast]
    obtain ⟨front, rfl⟩ := List.getLast?_eq_some_iff.1 hlast
    rw [List.dropLast_concat, entries_append, entries_append, entries_singleton, entries_singleton,
      ih (k + 1) hbelow, Nat.add_right_comm, Nat.add_assoc, List.append_assoc, List.cons_append]

end StyleLens.Outline
