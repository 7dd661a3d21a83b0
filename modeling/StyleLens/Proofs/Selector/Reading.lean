import StyleLens.Proofs.Selector.Chain
import StyleLens.Selector.Read

/-!
# Reading a selector is reading it from left to right

How a syntax tree nests the parts of a selector does not matter. A tree is
written out as a list of simples and combinators (`Selector.linear`): the two
operands of a combinator stand around it, and a part stands after the selector
that it is attached to. The selector that is read from the tree has just these
pieces (`Selector.pieces_read`), so that trees which are written out alike are
read alike, whether a part is attached to an operand of a combinator or to the
whole selector.

The trees are those in which no combinator lacks an operand (`Selector.Paired`).
-/

namespace StyleLens.Selector

/-! ### Linear reading -/

mutual

/-- The pieces of a selector node from left to right. -/
def linear (source : String) : Tree → List (Piece Simple)
  | .node l cs =>
    match l.kind.combinator? with
    | some c => linearFirst source cs ++ .combinator c :: linearLast source cs
    | none =>
      (if l.kind.isPart then linearAttached source cs else []) ++
        (Simple.read? source (.node l cs) (readArguments source cs)).toList.map .simple

/-- The pieces of the first named node among some nodes. -/
def linearFirst (source : String) : List Tree → List (Piece Simple)
  | [] => []
  | t :: ts => if t.named then linear source t else linearFirst source ts

/-- The pieces of the last named node among some nodes. -/
def linearLast (source : String) : List Tree → List (Piece Simple)
  | [] => []
  | t :: ts =>
    if ts.any (·.named) then linearLast source ts
    else if t.named then linear source t else []

/-- The pieces of the first of some nodes, if it is a named one. -/
def linearAttached (source : String) : List Tree → List (Piece Simple)
  | [] => []
  | t :: _ => if t.named then linear source t else []

end

/-- In the tree of a selector, each combinator that is reached in reading it has a
    first and another last named child. Reading goes on from a combinator to
    these two, and from a part to the named node that it is attached to. -/
inductive Paired : Tree → Prop
  | joined {t first last : Tree} {c : Combinator} {between : List Tree}
      (hkind : t.kind.combinator? = some c)
      (hnamed : t.children.filter (·.named) = first :: (between ++ [last]))
      (hfirst : Paired first) (hlast : Paired last) : Paired t
  | single {t : Tree} (hkind : t.kind.combinator? = none)
      (hattached : t.kind.isPart → ∀ u, t.children.head? = some u → u.named → Paired u) : Paired t

/-! ### Operands -/

variable {source : String} {t u : Tree} {ts : List Tree}

theorem readNamed_eq (source : String) (ts : List Tree) :
    readNamed source ts = (ts.filter (·.named)).map (read source) := by
  induction ts with
  | nil => rfl
  | cons t ts ih => by_cases h : t.named <;> simp [readNamed, h, ih]

theorem linearFirst_eq {others : List Tree} (h : ts.filter (·.named) = t :: others) :
    linearFirst source ts = linear source t := by
  induction ts with
  | nil => cases h
  | cons u ts ih =>
    by_cases hu : u.named
    · rw [List.filter_cons_of_pos hu, List.cons.injEq] at h
      rw [linearFirst, if_pos hu, h.1]
    · rw [List.filter_cons_of_neg hu] at h
      rw [linearFirst, if_neg hu, ih h]

theorem linearLast_eq (h : (ts.filter (·.named)).getLast? = some t) :
    linearLast source ts = linear source t := by
  induction ts with
  | nil => cases h
  | cons u ts ih =>
    rw [linearLast]
    cases hlast : (ts.filter (·.named)).getLast? with
    | none =>
      -- No named node stands further on, so this is the last one.
      have hnone : ¬ts.any (·.named) := by simpa using hlast
      rw [if_neg hnone]
      by_cases hu : u.named
      · rw [List.filter_cons_of_pos hu, List.getLast?_cons, hlast] at h
        rw [if_pos hu, ← Option.some.inj h, Option.getD_none]
      · rw [List.filter_cons_of_neg hu, hlast] at h
        cases h
    | some v =>
      have hany : ts.any (·.named) := by
        obtain ⟨hmem, hv⟩ := List.mem_filter.1 (List.mem_of_getLast? hlast)
        exact List.any_eq_true.2 ⟨v, hmem, hv⟩
      rw [if_pos hany]
      by_cases hu : u.named
      · rw [List.filter_cons_of_pos hu, List.getLast?_cons, hlast, Option.getD_some] at h
        exact ih (hlast.trans h)
      · rw [List.filter_cons_of_neg hu] at h
        exact ih h

section Joined

variable {first last : Tree} {c : Combinator} {between : List Tree}
  (hkind : t.kind.combinator? = some c)
  (hnamed : t.children.filter (·.named) = first :: (between ++ [last]))

include hkind hnamed

/-- A combinator is read between its first and its last operand. -/
theorem read_joined : read source t = (read source first).join c (read source last) := by
  cases t with
  | node l cs =>
    have hkind : l.kind.combinator? = some c := hkind
    have hnamed : cs.filter (·.named) = first :: (between ++ [last]) := hnamed
    rw [read, hkind]
    simp [readNamed_eq, hnamed, joinOperands]

/-- A combinator is written out between its first and its last operand. -/
theorem linear_joined :
    linear source t = linear source first ++ .combinator c :: linear source last := by
  cases t with
  | node l cs =>
    have hkind : l.kind.combinator? = some c := hkind
    have hlast : (cs.filter (·.named)).getLast? = some last := by
      rw [show cs.filter (·.named) = _ from hnamed, ← List.cons_append, List.getLast?_concat]
    rw [linear, hkind, ← linearLast_eq hlast, ← linearFirst_eq hnamed]
    rfl

end Joined

/-! ### The selector that is read -/

/-- The selector that is read from a tree has the pieces of the tree. -/
theorem pieces_read (source : String) (h : Paired t) : (read source t).pieces = linear source t := by
  -- The tree is followed as reading goes through it, so there is a hypothesis for
  -- each node that is read on the way and for no other.
  induction h with
  | @joined t first last c between hkind hnamed _ _ ihfirst ihlast =>
    rw [read_joined hkind hnamed, linear_joined hkind hnamed, Chain.pieces_join, ihfirst, ihlast]
  | @single t hkind hattached ih =>
    cases t with
    | node l cs =>
      -- What a part is attached to has its own pieces, and nothing has none.
      have hfront : (if l.kind.isPart then readFirst source cs else .empty).pieces =
          if l.kind.isPart then linearAttached source cs else [] := by
        split_ifs with hpart
        · cases cs with
          | nil => rfl
          | cons u us =>
            by_cases hu : u.named
            · rw [readFirst, if_pos hu, linearAttached, if_pos hu, ih hpart u rfl hu]
            · rw [readFirst, if_neg hu, linearAttached, if_neg hu]
              rfl
        · rfl
      have hkind : l.kind.combinator? = none := hkind
      rw [read, linear, hkind]
      simp only [Chain.pieces_extendLast, hfront]

/-- Reading a tree gives the selector with the pieces of the tree, from left to
    right; so trees that are written out alike are read alike. -/
theorem read_is_left_to_right :
    (∀ (source : String) (t : Tree), Paired t → (read source t).pieces = linear source t) ∧
    ∀ (source source' : String) (t t' : Tree), Paired t → Paired t' →
      linear source t = linear source' t' → read source t = read source' t' := by
  refine ⟨fun source t => pieces_read source, fun source source' t t' ht ht' h => ?_⟩
  apply Chain.pieces_injective
  rw [pieces_read source ht, pieces_read source' ht', h]

/-- The tree of `a > b#c` as it is parsed, with the id outside of the combinator. -/
def idOutside : Tree :=
  .node ⟨"id_selector", true, 0, 7⟩
    [.node ⟨"child_selector", true, 0, 5⟩
      [.node ⟨"tag_name", true, 0, 1⟩ [], .node ⟨">", false, 2, 3⟩ [],
        .node ⟨"tag_name", true, 4, 5⟩ []],
      .node ⟨"#", false, 5, 6⟩ [], .node ⟨"id_name", true, 6, 7⟩ []]

/-- A tree of `a > b#c` with the id inside of the second operand. -/
def idInside : Tree :=
  .node ⟨"child_selector", true, 0, 7⟩
    [.node ⟨"tag_name", true, 0, 1⟩ [], .node ⟨">", false, 2, 3⟩ [],
      .node ⟨"id_selector", true, 4, 7⟩
        [.node ⟨"tag_name", true, 4, 5⟩ [], .node ⟨"#", false, 5, 6⟩ [],
          .node ⟨"id_name", true, 6, 7⟩ []]]

/-- Both trees of `a > b#c` are read alike. -/
theorem read_is_left_to_right_id :
    Paired idOutside ∧ Paired idInside ∧
      linear "a > b#c" idOutside = linear "a > b#c" idInside ∧
      read "a > b#c" idOutside = read "a > b#c" idInside := by
  have hleaf : ∀ i j, Paired (.node ⟨"tag_name", true, i, j⟩ []) := fun _ _ =>
    .single rfl fun h => absurd (show false = true from h) Bool.false_ne_true
  have houtside : Paired idOutside :=
    .single (by decide) fun _ u hu _ => by
      cases hu
      exact @Paired.joined _ _ _ .child [] (by decide) rfl (hleaf 0 1) (hleaf 4 5)
  have hinside : Paired idInside := by
    refine @Paired.joined _ _ _ .child [] (by decide) rfl (hleaf 0 1) ?_
    exact .single (by decide) fun _ u hu _ => by cases hu; exact hleaf 4 5
  have hlinear : linear "a > b#c" idOutside = linear "a > b#c" idInside := by rfl
  exact ⟨houtside, hinside, hlinear, read_is_left_to_right.2 _ _ _ _ houtside hinside hlinear⟩

end StyleLens.Selector
