import StyleLens.Proofs.Selector.Tally
import StyleLens.Proofs.Specificity

/-!
# Weights without a limit

The weight of a selector counts in 32 bits and stops at the greatest count. Cut
counts would not even compare as the true ones do, so that one cut deep inside
of a selector could show anywhere in its weight. But a selector of less than
2^32 simples has nothing to cut, as its tally has no more counts than that. Its
weight is its tally (`Selector.toTally_specificity`):

* `Specificity.toTally_sum`, `Specificity.toTally_greatest`: sums that fit are
  exact, and greatest weights always are;
* `PseudoRule.toTally_weight_ofName`: the rules that are looked up by name are
  those of tallies.
-/

namespace StyleLens

/-! ### Weights as tallies -/

namespace Specificity

variable {a b : Specificity}

/-- The counts of a weight as naturals. -/
def toTally (w : Specificity) : Tally := ⟨w.ids.toNat, w.classes.toNat, w.types.toNat⟩

theorem toTally_le_iff : a.toTally ≤ b.toTally ↔ a ≤ b := by
  obtain ⟨ids, classes, types⟩ := a
  obtain ⟨ids', classes', types'⟩ := b
  change _ ↔
    (ids < ids' ∨ ids = ids' ∧ (classes < classes' ∨ classes = classes' ∧ types < types')) ∨
      Specificity.mk ids classes types = ⟨ids', classes', types'⟩
  rw [Tally.le_iff, mk.injEq]
  simp only [toTally, UInt32.lt_iff_toNat_lt, ← UInt32.toNat_inj]
  omega

theorem toTally_max (a b : Specificity) : (max a b).toTally = max a.toTally b.toTally := by
  change (if a ≤ b then b else a).toTally = _
  rw [max_def, apply_ite toTally]
  simp only [toTally_le_iff]

/-- The greatest of some weights is the greatest of their tallies. -/
theorem toTally_greatest (ws : List Specificity) :
    (greatest ws).toTally = Tally.greatest (ws.map toTally) := by
  have hfold : ∀ (w : Specificity) (ws : List Specificity),
      (ws.foldl max w).toTally = (ws.map toTally).foldl max w.toTally := by
    intro w ws
    induction ws generalizing w with
    | nil => rfl
    | cons v ws ih => rw [List.foldl_cons, ih, toTally_max, List.map_cons, List.foldl_cons]
  cases ws with
  | nil => rfl
  | cons w ws =>
    have hzero : max (toTally 0) w.toTally = w.toTally := max_eq_right (Tally.zero_le _)
    rw [greatest, hfold, List.map_cons, List.foldl_cons, hzero, Tally.greatest, List.max?_cons']
    rfl

/-- A sum that fits is exact. -/
theorem toTally_add (h : (a.toTally + b.toTally).total < UInt32.size) :
    (a + b).toTally = a.toTally + b.toTally := by
  have hfits : ∀ c d : UInt32, c.toNat + d.toNat < UInt32.size →
      (Count.add c d).toNat = c.toNat + d.toNat := by
    intro c d hcd
    rw [Count.toNat_add, Nat.min_eq_left]
    exact Nat.le_of_lt_succ hcd
  simp only [Tally.total, Tally.add_def, toTally] at h
  rw [add_def, toTally, hfits _ _ (by omega), hfits _ _ (by omega), hfits _ _ (by omega)]
  rfl

/-- The sum of some weights is exact if it fits. -/
theorem toTally_sum {ws : List Specificity} (h : (ws.map toTally).sum.total < UInt32.size) :
    ws.sum.toTally = (ws.map toTally).sum := by
  induction ws with
  | nil => rfl
  | cons w ws ih =>
    rw [List.map_cons, List.sum_cons] at h
    have hrest : ws.sum.toTally = (ws.map toTally).sum := ih (by rw [Tally.total_add] at h; omega)
    rw [← hrest] at h
    rw [List.sum_cons, List.map_cons, List.sum_cons, ← hrest, toTally_add h]

end Specificity

/-! ### Rules by name -/

/-- A name without the mark of a vendor, if it has one. -/
def unmarked (name : String) : String :=
  match unmarked? name.toList with
  | some rest => String.ofList rest
  | none => name

/-- No mark starts like another, so the one that is put in front is the one found. -/
theorem unmarked?_append {mark : String} (h : mark ∈ vendorMarks) (rest : List Char) :
    unmarked? (mark.toList ++ rest) = some rest := by
  simp only [vendorMarks, List.mem_cons, List.not_mem_nil, or_false] at h
  rcases h with rfl | rfl | rfl | rfl <;> rfl

/-- Names are told by what is left of them without a mark, where none of them has
    a mark itself. -/
theorem named_iff {names : List String} (hnames : ∀ base ∈ names, unmarked? base.toList = none)
    (name : String) : Named names name ↔ unmarked name ∈ names := by
  constructor
  · rintro ⟨base, hbase, rfl | ⟨mark, hmark, rfl⟩⟩
    · rwa [unmarked, hnames _ hbase]
    · have hbare : unmarked (mark ++ base) = base := by
        rw [unmarked, String.toList_append, unmarked?_append hmark]
        exact String.ofList_toList
      rwa [hbare]
  · intro h
    rw [unmarked] at h
    cases hrest : unmarked? name.toList with
    | none => exact ⟨name, by rwa [hrest] at h, .inl rfl⟩
    | some rest =>
      obtain ⟨mark, hmark, hhead⟩ := List.exists_of_findSome?_eq_some hrest
      rw [hrest] at h
      refine ⟨String.ofList rest, h, .inr ⟨mark, hmark, ?_⟩⟩
      rw [← String.toList_inj, String.toList_append, String.toList_ofList]
      exact Text.dropHead?_eq_some_iff.1 hhead

namespace PseudoRule

/-- The rule of a pseudo-class is told by its name without a mark. -/
theorem ofName_eq (name : String) :
    ofName name =
      if unmarked name = "where" then nothing
      else if unmarked name ∈ ["is", "not", "has", "matches", "any"] then argument
      else if unmarked name ∈ ["host", "host-context", "nth-child", "nth-last-child"] then
        classAndArgument
      else if unmarked name ∈ ["before", "after", "first-line", "first-letter"] then asType
      else asClass := rfl

/-- The rule that is looked up for a pseudo-class gives its tally, if that fits. -/
theorem toTally_weight_ofName (name : String) (ws : List Specificity)
    (hfits : (Tally.ofPseudoClass name (ws.map Specificity.toTally)).total < UInt32.size) :
    ((ofName name).weight ws).toTally =
      Tally.ofPseudoClass name (ws.map Specificity.toTally) := by
  rw [Tally.ofPseudoClass] at hfits ⊢
  simp (disch := decide) only [named_iff, List.mem_singleton, List.map_eq_nil_iff] at hfits ⊢
  rw [ofName_eq]
  split_ifs at hfits ⊢ with hwhere hargument hnone hclass htype
  · rfl
  · rw [weight, hnone]
    rfl
  · rw [weight, if_neg (by rwa [List.isEmpty_iff]), Specificity.toTally_greatest]
  · rw [weight]
    rw [← Specificity.toTally_greatest] at hfits ⊢
    exact Specificity.toTally_add hfits
  · rfl
  · rfl

end PseudoRule

/-! ### Exact weights -/

/-- A simple selector weighs what the rules say, from the weights of its arguments,
    if that fits. -/
theorem Simple.toTally_specificity (s : Simple)
    (hfits : (Tally.ofSimple s
      ((s.arguments.map Selector.specificity).map Specificity.toTally)).total < UInt32.size) :
    s.specificity.toTally =
      Tally.ofSimple s ((s.arguments.map Selector.specificity).map Specificity.toTally) := by
  cases s with
  | pseudoClass name text arguments =>
    rw [Simple.specificity, Selector.weights_eq]
    exact PseudoRule.toTally_weight_ofName name _ hfits
  | pseudoElement name text arguments =>
    rw [Simple.specificity, Selector.weights_eq, pseudoElementWeight]
    rw [Tally.ofSimple] at hfits ⊢
    split_ifs at hfits ⊢ with hslotted
    · rw [Simple.arguments, ← Specificity.toTally_greatest] at hfits ⊢
      exact Specificity.toTally_add hfits
    · rfl
  | _ => rw [Simple.specificity]; rfl

namespace Selector

/-- The weight of a selector of less than 2^32 simples is its tally. -/
theorem toTally_specificity (s : Selector) (hsize : size s < UInt32.size) :
    (specificity s).toTally = tally s := by
  induction s using arguments_induction with
  | step s ih =>
    have hsimples : (s.simples.map Simple.specificity).map Specificity.toTally =
        s.simples.map Simple.tally := by
      rw [List.map_map]
      refine List.map_congr_left fun simple hsimple => ?_
      -- The arguments are smaller than the selector, so their weights are exact.
      have harguments : (simple.arguments.map specificity).map Specificity.toTally =
          simple.arguments.map tally := by
        rw [List.map_map]
        refine List.map_congr_left fun a ha => ?_
        exact ih simple hsimple a ha ((size_lt_of_mem_arguments hsimple ha).trans hsize)
      have hfits : simple.tally.total < UInt32.size :=
        ((Tally.total_simple_le_size simple fun a _ => Tally.total_tally_le_size a).trans
          (Simple.size_le_of_mem hsimple)).trans_lt hsize
      rw [Function.comp_apply, Simple.toTally_specificity, harguments, Simple.tally_eq]
      rwa [harguments, ← Simple.tally_eq]
    have hfits := (Tally.total_tally_le_size s).trans_lt hsize
    rw [tally_eq, ← hsimples] at hfits
    rw [specificity_eq_sum_simples, Specificity.toTally_sum hfits, hsimples, tally_eq]

/-- Below 2^32 simples, no count is cut: the weight of a selector is its tally, and its
    counts together are no more than its simples. -/
theorem specificity_is_exact (s : Selector) (hsize : size s < UInt32.size) :
    (specificity s).toTally = tally s ∧
      (specificity s).ids.toNat + (specificity s).classes.toNat + (specificity s).types.toNat ≤
        size s := by
  have hexact := toTally_specificity s hsize
  refine ⟨hexact, ?_⟩
  have htotal := Tally.total_tally_le_size s
  rw [← hexact] at htotal
  exact htotal

/-- `#a:-webkit-any(.b, c:not(#d)) ::slotted(.e)`. -/
def nestedArguments : Selector :=
  ⟨[.byId "a", .pseudoClass "-webkit-any" ":-webkit-any(.b, c:not(#d))"
      [⟨[.byClass "b"], []⟩,
        ⟨[.type "c", .pseudoClass "not" ":not(#d)" [⟨[.byId "d"], []⟩]], []⟩]],
    [(.descendant, [.pseudoElement "slotted" "::slotted(.e)" [⟨[.byClass "e"], []⟩]])]⟩

/-- Of the two arguments of `:-webkit-any`, the second counts, for the id in it. -/
theorem specificity_is_exact_nestedArguments :
    size nestedArguments < UInt32.size ∧
      (specificity nestedArguments).toTally = ⟨2, 1, 2⟩ ∧
      (specificity nestedArguments).ids.toNat + (specificity nestedArguments).classes.toNat +
        (specificity nestedArguments).types.toNat ≤ 8 := by
  have hsize : size nestedArguments = 8 := by decide
  have hlimit : size nestedArguments < UInt32.size := by rw [hsize]; decide
  obtain ⟨hexact, htotal⟩ := specificity_is_exact nestedArguments hlimit
  exact ⟨hlimit, hexact.trans (by decide), htotal.trans_eq hsize⟩

end Selector

end StyleLens
