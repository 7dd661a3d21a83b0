import StyleLens.Proofs.Tree.Nested
import StyleLens.Tree.Cursor

/-!
# What the node under the cursor is

In a tree whose ranges nest, the search for the node under a cursor goes down
from a node to one of its children, and never has to come back: of the children,
at most one holds the byte, and that one is entered (`Focus.Entered`). So the
choices made level by level add up to a fact about the whole subtree
(`Focus.IsUnder`):

* the node found is innermost: no child of it touches the byte;
* every node of the subtree that holds the byte is the node found or one of its
  ancestors (`IsUnder.encloses`);
* so a node that starts at the byte is never passed over for one that ends
  there (`IsUnder.starts`).

The main statement is about `Focus.under?` from any node of a tree and at any byte.
-/

namespace StyleLens

namespace Tree

variable {t : Tree} {o : Nat}

/-- The tree has a width and byte `o` lies in it or right after it. -/
def Touches (t : Tree) (o : Nat) : Prop := t.start ≠ t.stop ∧ t.start ≤ o ∧ o ≤ t.stop

/-- Byte `o` is one of the bytes of the tree. -/
def Holds (t : Tree) (o : Nat) : Prop := t.start ≤ o ∧ o < t.stop

/-- The tree has a width and starts at byte `o`. -/
def StartsAt (t : Tree) (o : Nat) : Prop := t.start ≠ t.stop ∧ t.start = o

theorem Holds.touches (h : t.Holds o) : t.Touches o := by
  obtain ⟨hstart, hstop⟩ := h
  exact ⟨by omega, hstart, hstop.le⟩

theorem StartsAt.holds (h : t.StartsAt o) (ht : t.Nested) : t.Holds o := by
  obtain ⟨hne, rfl⟩ := h
  have := ht.start_le_stop
  exact ⟨le_rfl, by omega⟩

end Tree

namespace Focus

variable {r n : Focus} {o : Nat}

/-! ### One level -/

/-- The child that the search for byte `o` enters: it touches the byte, and no
    other child holds it. -/
structure Entered (o : Nat) (ts : List Tree) (k : Nat) (t : Tree) : Prop where
  at_place : ts[k]? = some t
  touches : t.Touches o
  only : ∀ j u, ts[j]? = some u → u.Holds o → j = k

/-- A tree in front that does not hold the byte is passed over. -/
theorem Entered.cons {ts : List Tree} {k : Nat} {t u : Tree} (h : Entered o ts k t)
    (hu : ¬u.Holds o) : Entered o (u :: ts) (k + 1) t where
  at_place := h.at_place
  touches := h.touches
  only
    | 0, _, hv, hv' => by cases hv; exact absurd hv' hu
    | j + 1, v, hv, hv' => by rw [h.only j v hv hv']

/-- The first tree is entered if it touches the byte and no other one holds it. -/
theorem Entered.first {ts : List Tree} {t : Tree} (ht : t.Touches o)
    (h : ∀ u ∈ ts, ¬u.Holds o) : Entered o (t :: ts) 0 t where
  at_place := rfl
  touches := ht
  only
    | 0, _, _, _ => rfl
    | _ + 1, u, hu, hu' => absurd hu' (h u (List.mem_of_getElem? hu))

/-- The search among siblings in order: if it finds nothing, none of them touches
    the byte; otherwise it goes on in the one that is entered. -/
theorem innermostAmong_spec (trail : List Step) (parent : Tree) (i : Nat) (ts : List Tree)
    (hts : ∀ t ∈ ts, t.start ≤ t.stop) (hpair : ts.Pairwise fun t u => t.stop ≤ u.start) :
    (innermostAmong o trail parent i ts = none → ∀ t ∈ ts, ¬t.Touches o) ∧
    (∀ n, innermostAmong o trail parent i ts = some n → ∃ k t, Entered o ts k t ∧
      n = innermost o (⟨parent, i + k⟩ :: trail) t) := by
  induction ts generalizing i with
  | nil => simp [innermostAmong]
  | cons t ts ih =>
    obtain ⟨hfirst, hpair⟩ := List.pairwise_cons.1 hpair
    have hle : t.start ≤ t.stop := hts t List.mem_cons_self
    obtain ⟨hnone, hsome⟩ := ih (i + 1) (fun u hu => hts u (List.mem_cons_of_mem _ hu)) hpair
    -- While the byte is in front of the end of a sibling, it touches none behind it.
    have hbehind : o < t.stop → ∀ u ∈ ts, ¬u.Touches o := fun hstop u hu htouch => by
      have := hfirst u hu
      have := htouch.2.1
      omega
    -- What was found further on was found at a place counted from there.
    have hlater : ∀ n, ¬t.Holds o → innermostAmong o trail parent (i + 1) ts = some n →
        ∃ k u, Entered o (t :: ts) k u ∧ n = innermost o (⟨parent, i + k⟩ :: trail) u := by
      intro n ht hn
      obtain ⟨k, u, hu, rfl⟩ := hsome n hn
      exact ⟨k + 1, u, hu.cons ht, by rw [Nat.add_assoc, Nat.add_comm 1 k]⟩
    rw [innermostAmong]
    split_ifs with hbefore hskip hstart
    · refine ⟨fun _ u hu htouch => ?_, nofun⟩
      rcases List.mem_cons.1 hu with rfl | hu
      · have := htouch.2.1
        omega
      · exact hbehind (by omega) u hu htouch
    · refine ⟨fun hn u hu htouch => ?_, fun n => hlater n fun hholds => ?_⟩
      · rcases List.mem_cons.1 hu with rfl | hu
        · obtain ⟨hwide, -, hstop⟩ := htouch
          omega
        · exact hnone hn u hu htouch
      · obtain ⟨hstart, hstop⟩ := hholds
        omega
    · -- The search ends at the sibling that starts at the byte.
      have hlt : o < t.stop := by omega
      refine ⟨nofun, fun n hn => ⟨0, t, .first ⟨by omega, hstart.le, hlt.le⟩ fun u hu h => ?_, ?_⟩⟩
      · exact hbehind hlt u hu h.touches
      · exact (Option.some.inj hn).symm
    · have htouch : t.Touches o := ⟨by omega, by omega, by omega⟩
      cases hrest : innermostAmong o trail parent (i + 1) ts with
      | none =>
        refine ⟨nofun, fun n hn => ⟨0, t, .first htouch fun u hu h => ?_, ?_⟩⟩
        · exact hnone hrest u hu h.touches
        · exact (Option.some.inj hn).symm
      | some m =>
        -- A sibling further on was entered, so this one has ended before the byte.
        refine ⟨nofun, fun n hn => ?_⟩
        obtain rfl : m = n := Option.some.inj hn
        obtain ⟨k, u, hu, -⟩ := hsome m hrest
        have hmem : u ∈ ts := List.mem_of_getElem? hu.at_place
        exact hlater m (fun hholds => hbehind hholds.2 u hmem hu.touches) hrest

/-! ### All levels -/

/-- `n` is the node under byte `o` in the subtree of `r`. -/
structure IsUnder (r : Focus) (o : Nat) (n : Focus) : Prop where
  atOrBelow : n.AtOrBelow r
  /-- The root of the subtree is under the byte when no other node is. -/
  touches : n = r ∨ n.node.Touches o
  innermost : ∀ c ∈ n.children, ¬c.node.Touches o
  /-- A node that holds the byte is the node or an ancestor of it. -/
  encloses : ∀ m, m.Below r → m.node.Holds o → n.AtOrBelow m

/-- What is under the byte below a child that is entered is under it below the
    parent. -/
theorem IsUnder.of_entered {k : Nat} {t : Tree} (hr : r.node.Nested)
    (hk : Entered o r.node.children k t) (h : IsUnder ⟨t, ⟨r.node, k⟩ :: r.trail⟩ o n) :
    r.IsUnder o n := by
  have hc : r.child? k = some ⟨t, ⟨r.node, k⟩ :: r.trail⟩ :=
    child?_eq_some_iff.2 ⟨hk.at_place, rfl⟩
  refine ⟨h.atOrBelow.trans (.of_child? hc), .inr ?_, h.innermost, fun m hm hholds => ?_⟩
  · rcases h.touches with rfl | htouch
    · exact hk.touches
    · exact htouch
  · -- The child above `m` holds the byte as `m` does, so it is the one entered.
    obtain ⟨j, c, hj, hmc⟩ := below_iff.1 hm
    have hcholds : c.node.Holds o := by
      obtain ⟨hstart, hstop⟩ := hmc.inside (hr.child (node_mem_of_child? hj))
      exact ⟨hstart.trans hholds.1, hholds.2.trans_le hstop⟩
    obtain rfl := hk.only j c.node (child?_eq_some_iff.1 hj).1 hcholds
    obtain rfl : c = _ := Option.some.inj (hj.symm.trans hc)
    rcases atOrBelow_iff.1 hmc with rfl | hbelow
    · exact h.atOrBelow
    · exact h.encloses m hbelow hholds

/-- The search finds the node under the byte. -/
theorem isUnder_innermost (t : Tree) (trail : List Step) (ht : t.Nested) :
    IsUnder ⟨t, trail⟩ o (Focus.innermost o trail t) := by
  induction t using Tree.children_induction generalizing trail with
  | node l cs ih =>
    have hcs : ∀ t ∈ cs, t.start ≤ t.stop := fun t h => (ht.child h).start_le_stop
    obtain ⟨hnone, hsome⟩ := innermostAmong_spec (o := o) trail (.node l cs) 0 cs hcs
      ht.pairwise_children
    rw [Focus.innermost]
    cases hn : innermostAmong o trail (.node l cs) 0 cs with
    | none =>
      have hout : ∀ c i, child? ⟨.node l cs, trail⟩ i = some c → ¬c.node.Touches o :=
        fun c i hc => hnone hn c.node (node_mem_of_child? hc)
      refine ⟨.refl _, .inl rfl, fun c hc => ?_, fun m hm hholds => ?_⟩
      · obtain ⟨i, hi⟩ := mem_children_iff.1 hc
        exact hout c i hi
      · -- Nothing below holds the byte, as the child above it would touch it.
        obtain ⟨i, c, hi, hmc⟩ := below_iff.1 hm
        obtain ⟨hstart, hstop⟩ := hmc.inside (ht.child (node_mem_of_child? hi))
        exact absurd (Tree.Holds.touches ⟨hstart.trans hholds.1, hholds.2.trans_le hstop⟩)
          (hout c i hi)
    | some n =>
      obtain ⟨k, t, hk, rfl⟩ := hsome n hn
      rw [Nat.zero_add, Option.getD_some]
      have hmem := List.mem_of_getElem? hk.at_place
      exact .of_entered ht hk (ih t hmem _ (ht.child hmem))

/-- If a node starts at the byte, then the node under it does, and is the deepest
    one of those that do. -/
theorem IsUnder.starts (h : r.IsUnder o n) (hr : r.node.Nested) {m : Focus} (hm : m.Below r)
    (hs : m.node.StartsAt o) : n.Below r ∧ n.node.StartsAt o ∧ n.AtOrBelow m := by
  have hnm : n.AtOrBelow m := h.encloses m hm (hs.holds (hm.atOrBelow.nested hr))
  have hstart := (hnm.inside (hm.atOrBelow.nested hr)).1
  have hmo := hs.2
  have hne : n ≠ r := by
    rintro rfl
    exact hm.not_atOrBelow hnm
  obtain ⟨hwide, hle, -⟩ := h.touches.resolve_left hne
  exact ⟨(atOrBelow_iff.1 h.atOrBelow).resolve_left hne, ⟨hwide, by omega⟩, hnm⟩

/-- The search fails exactly outside of the node, where the root of a tree also
    covers what is in front of it. -/
theorem under?_eq_none_iff :
    r.under? o = none ↔ r.node.stop < o ∨ o < if r.parent?.isNone then 0 else r.node.start := by
  have hroot : r.trail.isEmpty = r.parent?.isNone := by
    rw [parent?]
    cases r.trail <;> rfl
  rw [under?, hroot, ite_eq_left_iff]
  simp only [reduceCtorEq, imp_false, not_not]
  exact Or.comm

/-- What is found from a node whose ranges nest is the node under the byte. -/
theorem isUnder_of_under? (hr : r.node.Nested) (h : r.under? o = some n) : r.IsUnder o n := by
  rw [under?, Option.ite_none_left_eq_some, Option.some.injEq] at h
  obtain ⟨-, rfl⟩ := h
  exact isUnder_innermost r.node r.trail hr

/-- The search from a node of a tree whose ranges nest finds nothing exactly if
    the byte is outside of the node. Otherwise it finds the node under the byte;
    and if any node below starts at the byte, the deepest of those that do. -/
theorem innermost_under_cursor {t : Tree} (ht : t.Nested) {r : Focus}
    (hr : r.AtOrBelow (.root t)) (o : Nat) :
    (r.under? o = none ↔
      r.node.stop < o ∨ o < if r.parent?.isNone then 0 else r.node.start) ∧
    ∀ n, r.under? o = some n → r.IsUnder o n ∧
      ∀ m, m.Below r → m.node.StartsAt o →
        n.Below r ∧ n.node.StartsAt o ∧ n.AtOrBelow m := by
  have hnested : r.node.Nested := hr.nested ht
  refine ⟨under?_eq_none_iff, fun n hn => ?_⟩
  have hunder : r.IsUnder o n := isUnder_of_under? hnested hn
  exact ⟨hunder, fun m hm hs => hunder.starts hnested hm hs⟩

/-- The tree of `ab.c`, in which a missing token stands where the tag and the
    class meet. -/
def tagMeetsClass : Tree :=
  .node ⟨"class_selector", true, 0, 4⟩
    [.node ⟨"tag_name", true, 0, 2⟩ [], .node ⟨";", false, 2, 2⟩ [],
      .node ⟨".", false, 2, 3⟩ [], .node ⟨"class_name", true, 3, 4⟩
        [.node ⟨"identifier", true, 3, 4⟩ []]]

/-- Where the tag ends and the dot starts, the dot is under the cursor. -/
theorem innermost_under_cursor_tagMeetsClass :
    tagMeetsClass.Nested ∧ (root tagMeetsClass).AtOrBelow (root tagMeetsClass) ∧
      ∃ n, (root tagMeetsClass).under? 2 = some n ∧ (root tagMeetsClass).IsUnder 2 n ∧
        n.node.StartsAt 2 := by
  have hnested : tagMeetsClass.Nested := by decide
  obtain ⟨hunder, hstarts⟩ := (innermost_under_cursor hnested (.refl _) 2).2 _ rfl
  -- The dot is a node below the root that starts at byte 2.
  have hdot : Below ⟨.node ⟨".", false, 2, 3⟩ [], [⟨tagMeetsClass, 2⟩]⟩ (root tagMeetsClass) :=
    ⟨[2], by decide, rfl⟩
  exact ⟨hnested, .refl _, _, rfl, hunder, (hstarts _ hdot ⟨by decide, rfl⟩).2.1⟩

end Focus

end StyleLens
