import Mathlib.Algebra.GroupWithZero.Nat
import Mathlib.Data.List.Infix
import StyleLens.Proofs.Specificity

/-!
# Sums at the limit

Each step of a sum of weights stops at the limit of its counts. A count that has reached the
limit stays there, so what the steps cut is what one cut at the end would: the sum is that
of the naturals, cut once (`Specificity.toNat_count_sum`). So neither the order of the
weights nor their groups matter, be they the compounds of a selector or the levels of some nested
rules (`Specificity.sum_flatten`, `Specificity.sum_levels`), and no count gets smaller on the
way (`Specificity.pairwise_runningSums`).
-/

namespace StyleLens

/-- What a weight counts. -/
inductive Part where
  | ids
  | classes
  | types

namespace Count

theorem limit_eq : limit = UInt32.size - 1 := rfl

theorem le_add (a b : UInt32) : a ≤ add a b := by
  have := toNat_le_limit a
  rw [UInt32.le_iff_toNat_le, toNat_add]
  omega

end Count

namespace Specificity

/-- One count of a weight. -/
def count (w : Specificity) : Part → UInt32
  | .ids => w.ids
  | .classes => w.classes
  | .types => w.types

theorem count_zero (part : Part) : count 0 part = 0 := by
  cases part <;> rfl

theorem count_add (a b : Specificity) (part : Part) :
    (a + b).count part = Count.add (a.count part) (b.count part) := by
  cases part <;> rfl

/-! ### One cut -/

/-- Each count of a sum is the sum of the naturals, cut once. -/
theorem toNat_count_sum (ws : List Specificity) (part : Part) :
    (ws.sum.count part).toNat = min (ws.map fun w => (w.count part).toNat).sum Count.limit := by
  induction ws with
  | nil => rw [List.sum_nil, count_zero, List.map_nil, List.sum_nil, Nat.zero_min]; rfl
  | cons w ws ih =>
    -- The sum of the rest may be cut already, and then the whole sum is at the limit too.
    rw [List.sum_cons, count_add, Count.toNat_add, ih, List.map_cons, List.sum_cons]
    omega

/-- Weights may be summed in groups first. -/
theorem sum_flatten (groups : List (List Specificity)) :
    sum (groups.map sum) = sum groups.flatten := by
  have hgroups : groups.map sum = groups.map List.sum := List.map_congr_left fun ws _ => sum_eq ws
  rw [sum_eq, sum_eq, hgroups, List.sum_flatten]

/-- Some levels weigh together as all their simples. -/
theorem sum_levels (levels : List Selector) :
    sum (levels.map Selector.specificity) =
      sum (levels.flatMap fun s => s.simples.map Simple.specificity) := by
  rw [List.flatMap_def, ← sum_flatten, List.map_map]
  congr 1
  refine List.map_congr_left fun s _ => ?_
  rw [Selector.specificity_eq_sum_simples, Function.comp_apply, sum_eq]

/-! ### On the way -/

/-- The sums on the way are those of the fronts of the list. -/
theorem cons_runningSums (before : Specificity) (ws : List Specificity) :
    before :: runningSums before ws = ws.inits.map fun front => before + front.sum := by
  induction ws generalizing before with
  | nil => simp [runningSums]
  | cons w ws ih =>
    rw [runningSums, ih, List.inits_cons, List.map_cons, List.sum_nil, add_zero, List.map_map]
    congr 1
    refine List.map_congr_left fun front _ => ?_
    rw [Function.comp_apply, List.sum_cons, add_assoc]

/-- No count gets smaller on the way. -/
theorem pairwise_runningSums (before : Specificity) (ws : List Specificity) (part : Part) :
    (before :: runningSums before ws).Pairwise fun a b => a.count part ≤ b.count part := by
  induction ws generalizing before with
  | nil => exact List.pairwise_singleton ..
  | cons w ws ih =>
    have hrest := ih (before + w)
    have hstep : before.count part ≤ (before + w).count part := by
      rw [count_add]
      exact Count.le_add ..
    refine List.pairwise_cons.2 ⟨fun a ha => ?_, hrest⟩
    -- The first sum on the way is not below the start, and the others are not below the first.
    rcases List.mem_cons.1 ha with rfl | ha
    · exact hstep
    · exact UInt32.le_trans hstep ((List.pairwise_cons.1 hrest).1 a ha)

/-- Each count of the running sum of some weights is the sum of the naturals, cut once at
    2^32 - 1. So the sum does not depend on the order of the weights, nor on how they are
    grouped: what some levels weigh together is the sum over all their simples. The sums on
    the way are those of the fronts of the list, and no count gets smaller from one to
    another. -/
theorem sum_is_cut_once (ws : List Specificity) :
    (∀ part, ((sum ws).count part).toNat =
      min (ws.map fun w => (w.count part).toNat).sum (UInt32.size - 1)) ∧
    (∀ ws', ws'.Perm ws → sum ws' = sum ws) ∧
    (∀ groups : List (List Specificity), groups.flatten = ws → sum (groups.map sum) = sum ws) ∧
    (∀ levels : List Selector,
      (levels.flatMap fun s => s.simples.map Simple.specificity) = ws →
        sum (levels.map Selector.specificity) = sum ws) ∧
    0 :: runningSums 0 ws = ws.inits.map sum ∧
    ∀ part, (0 :: runningSums 0 ws).Pairwise fun a b => a.count part ≤ b.count part := by
  refine ⟨fun part => ?_, fun ws' hperm => ?_, fun groups hgroups => ?_, fun levels hlevels => ?_,
    ?_, pairwise_runningSums 0 ws⟩
  · rw [sum_eq, toNat_count_sum, Count.limit_eq]
  · rw [sum_eq, sum_eq, hperm.sum_eq]
  · rw [sum_flatten, hgroups]
  · rw [sum_levels, hlevels]
  · rw [cons_runningSums]
    refine List.map_congr_left fun front _ => ?_
    rw [zero_add, sum_eq]

end Specificity

end StyleLens
