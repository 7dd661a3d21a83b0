import Mathlib.Algebra.BigOperators.Group.List.Basic
import StyleLens.Proofs.Selector.Chain
import StyleLens.Selector.Weight

/-!
# Sums of weights

Counts stop at their limit instead of wrapping, and a sum that was cut stays
cut whatever is added to it. So counts, and with them weights, form a
commutative monoid (`Specificity.addCommMonoid`), and the running sum of a list
of weights is the sum of the list in it (`Specificity.sum_eq`): how the list is
ordered or grouped does not matter. In particular, the weight of a selector is
the sum over all its simples, wherever its combinators stand
(`Selector.specificity_eq_sum_simples`).

Nothing is taken away in a sum, so a small sum says what its members are
(`Specificity.sum_eq_zero_iff`, `Specificity.sum_eq_oneType_iff`).
-/

namespace StyleLens

namespace Count

/-- Every count is within the limit. -/
theorem toNat_le_limit (a : UInt32) : a.toNat ≤ limit := by
  have := a.toNat_lt
  unfold limit
  omega

theorem add_comm (a b : UInt32) : add a b = add b a := by
  rw [← UInt32.toNat_inj, toNat_add, toNat_add, Nat.add_comm]

theorem add_zero (a : UInt32) : add a 0 = a := by
  have := toNat_le_limit a
  rw [← UInt32.toNat_inj, toNat_add, UInt32.toNat_zero]
  omega

/-- Grouping does not matter: both sides are the sum of the naturals, cut once. -/
theorem add_assoc (a b c : UInt32) : add (add a b) c = add a (add b c) := by
  -- A sum that was cut is at the limit, and what is added to it leaves it there.
  rw [← UInt32.toNat_inj]
  simp only [toNat_add]
  omega

theorem add_eq_zero_iff (a b : UInt32) : add a b = 0 ↔ a = 0 ∧ b = 0 := by
  simp only [← UInt32.toNat_inj, toNat_add, limit, UInt32.toNat_zero]
  omega

theorem add_eq_one_iff (a b : UInt32) : add a b = 1 ↔ a = 1 ∧ b = 0 ∨ a = 0 ∧ b = 1 := by
  simp only [← UInt32.toNat_inj, toNat_add, limit, UInt32.toNat_zero, UInt32.toNat_one]
  omega

end Count

namespace Specificity

variable (a b : Specificity)

theorem add_def :
    a + b = ⟨Count.add a.ids b.ids, Count.add a.classes b.classes, Count.add a.types b.types⟩ := rfl

theorem zero_def : (0 : Specificity) = ⟨0, 0, 0⟩ := rfl

/-- Weights add up as the naturals do, up to the limit of each count. -/
instance addCommMonoid : AddCommMonoid Specificity where
  add_assoc a b c := by simp only [add_def, Count.add_assoc]
  add_comm a b := by
    rw [add_def, add_def, Count.add_comm, Count.add_comm a.classes, Count.add_comm a.types]
  zero_add a := by
    rw [add_def, zero_def, Count.add_comm, Count.add_comm _ a.classes, Count.add_comm _ a.types]
    simp only [Count.add_zero]
  add_zero a := by simp only [add_def, zero_def, Count.add_zero]
  nsmul := nsmulRec

/-- The running sum is the sum of the list. -/
theorem sum_eq (ws : List Specificity) : sum ws = ws.sum := by
  rw [sum, List.sum_eq_foldl]

/-! ### Small sums -/

section Small

variable {a b : Specificity} {ws : List Specificity}

theorem add_eq_zero_iff : a + b = 0 ↔ a = 0 ∧ b = 0 := by
  obtain ⟨ids, classes, types⟩ := a
  obtain ⟨ids', classes', types'⟩ := b
  simp only [add_def, zero_def, mk.injEq, Count.add_eq_zero_iff]
  tauto

theorem add_eq_oneType_iff : a + b = .oneType ↔ a = .oneType ∧ b = 0 ∨ a = 0 ∧ b = .oneType := by
  obtain ⟨ids, classes, types⟩ := a
  obtain ⟨ids', classes', types'⟩ := b
  simp only [add_def, zero_def, oneType, mk.injEq, Count.add_eq_zero_iff, Count.add_eq_one_iff]
  tauto

/-- Weights add up to nothing exactly if each of them is nothing. -/
theorem sum_eq_zero_iff : ws.sum = 0 ↔ ∀ w ∈ ws, w = 0 := by
  induction ws with
  | nil => simp
  | cons w ws ih => rw [List.sum_cons, add_eq_zero_iff, ih, List.forall_mem_cons]

/-- Weights add up to one type exactly if one of them is a type and the others are nothing. -/
theorem sum_eq_oneType_iff :
    ws.sum = .oneType ↔
      ∃ front back, ws = front ++ .oneType :: back ∧ ∀ w ∈ front ++ back, w = 0 := by
  constructor
  · intro h
    induction ws with
    | nil => exact absurd h (by decide)
    | cons w ws ih =>
      rw [List.sum_cons, add_eq_oneType_iff, sum_eq_zero_iff] at h
      rcases h with ⟨rfl, hrest⟩ | ⟨rfl, hrest⟩
      · exact ⟨[], ws, rfl, hrest⟩
      · obtain ⟨front, back, rfl, hzero⟩ := ih hrest
        exact ⟨0 :: front, back, rfl, List.forall_mem_cons.2 ⟨rfl, hzero⟩⟩
  · rintro ⟨front, back, rfl, hzero⟩
    rw [List.forall_mem_append] at hzero
    rw [List.sum_append, List.sum_cons, sum_eq_zero_iff.2 hzero.1, sum_eq_zero_iff.2 hzero.2,
      zero_add, add_zero]

end Small

end Specificity

/-! ### Weights of selectors -/

theorem Compound.specificity_eq_sum (c : Compound) :
    c.specificity = (c.map Simple.specificity).sum := by
  rw [Compound.specificity_eq, Specificity.sum_eq]

/-- A selector weighs the sum of its simples. -/
theorem Selector.specificity_eq_sum_simples (s : Selector) :
    Selector.specificity s = (s.simples.map Simple.specificity).sum := by
  rw [Selector.specificity_eq, Specificity.sum_eq, Chain.compounds, Chain.simples]
  rw [List.map_cons, List.sum_cons, List.map_append, List.sum_append, List.map_map,
    Compound.specificity_eq_sum]
  congr 1
  induction s.rest with
  | nil => rfl
  | cons link links ih =>
    rw [List.map_cons, List.sum_cons, ih, List.flatMap_cons, List.map_append, List.sum_append]
    exact congrArg (· + _) (Compound.specificity_eq_sum link.2)

end StyleLens
