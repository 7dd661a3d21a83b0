import Mathlib.Data.Prod.Lex
import StyleLens.Proofs.Selector.Measure
import StyleLens.Text.Basic

/-!
# Tallies

What a selector weighs by the rules of the cascade alone, counted in naturals:

* `Selector.tally`: the sum over the simples of a selector, each of them by
  `Tally.ofSimple`, which is given the tallies of its arguments;
* `Tally.total_tally_le_size`: a simple adds one to one count at most, also where it has
  arguments, as only one of them counts. So there are no more counts in a tally
  than simples in the selector.
-/

namespace StyleLens

/-! ### Tallies -/

/-- A weight in naturals. -/
@[ext]
structure Tally where
  ids : Nat
  classes : Nat
  types : Nat
  deriving DecidableEq

namespace Tally

instance : Zero Tally := ⟨⟨0, 0, 0⟩⟩

instance : Add Tally := ⟨fun a b => ⟨a.ids + b.ids, a.classes + b.classes, a.types + b.types⟩⟩

variable (a b : Tally)

theorem zero_def : (0 : Tally) = ⟨0, 0, 0⟩ := rfl

theorem add_def : a + b = ⟨a.ids + b.ids, a.classes + b.classes, a.types + b.types⟩ := rfl

instance addMonoid : AddMonoid Tally where
  add_assoc a b c := by simp only [add_def, Nat.add_assoc]
  zero_add a := by simp only [add_def, zero_def, Nat.zero_add]
  add_zero a := by simp only [add_def, zero_def, Nat.add_zero]
  nsmul := nsmulRec

/-- The counts of a tally, ids first. -/
def key : ℕ ×ₗ ℕ ×ₗ ℕ := toLex (a.ids, toLex (a.classes, a.types))

/-- Tallies compare lexicographically, ids first. -/
instance : LinearOrder Tally :=
  LinearOrder.lift' key fun a b h => by
    obtain ⟨hids, hrest⟩ := Prod.ext_iff.1 (toLex.injective h)
    obtain ⟨hclasses, htypes⟩ := Prod.ext_iff.1 (toLex.injective hrest)
    exact Tally.ext hids hclasses htypes

theorem le_iff :
    a ≤ b ↔ a.ids < b.ids ∨ a.ids = b.ids ∧
      (a.classes < b.classes ∨ a.classes = b.classes ∧ a.types ≤ b.types) := by
  change a.key ≤ b.key ↔ _
  rw [key, key, Prod.Lex.toLex_le_toLex, Prod.Lex.toLex_le_toLex]

theorem zero_le : 0 ≤ a := by
  rw [le_iff, zero_def]
  dsimp only
  omega

/-- The greatest of some tallies, zero if there are none. -/
def greatest (ts : List Tally) : Tally := ts.max?.getD 0

/-- All counts of a tally together. -/
def total : Nat := a.ids + a.classes + a.types

theorem total_add : (a + b).total = a.total + b.total := by
  simp only [total, add_def]
  omega

theorem total_sum (ts : List Tally) : ts.sum.total = (ts.map total).sum := by
  induction ts with
  | nil => rfl
  | cons t ts ih => rw [List.sum_cons, total_add, ih, List.map_cons, List.sum_cons]

/-- The greatest of some tallies is one of them, so all of them count for more. -/
theorem total_greatest_le (ts : List Tally) : (greatest ts).total ≤ (ts.map total).sum := by
  rw [greatest]
  cases h : ts.max? with
  | none => exact Nat.zero_le _
  | some t =>
    exact List.le_sum_of_mem (List.mem_map_of_mem (List.max?_mem h))

/-! ### Rules -/

/-- The tally of an id. -/
def oneId : Tally := ⟨1, 0, 0⟩

/-- The tally of a class, an attribute or a pseudo-class. -/
def oneClass : Tally := ⟨0, 1, 0⟩

/-- The tally of a type or a pseudo-element. -/
def oneType : Tally := ⟨0, 0, 1⟩

end Tally

/-- Whether a name is one of some names, with or without a vendor's mark. -/
def Named (names : List String) (name : String) : Prop :=
  ∃ base ∈ names, name = base ∨ ∃ mark ∈ vendorMarks, name = mark ++ base

instance (names : List String) (name : String) : Decidable (Named names name) :=
  inferInstanceAs (Decidable
    (∃ base ∈ names, name = base ∨ ∃ mark ∈ vendorMarks, name = mark ++ base))

namespace Tally

/-- The tally of a pseudo-class, from the tallies of its arguments. -/
def ofPseudoClass (name : String) (arguments : List Tally) : Tally :=
  if Named ["where"] name then 0
  else if Named ["is", "not", "has", "matches", "any"] name then
    if arguments = [] then oneClass else greatest arguments
  else if Named ["host", "host-context", "nth-child", "nth-last-child"] name then
    oneClass + greatest arguments
  else if Named ["before", "after", "first-line", "first-letter"] name then oneType
  else oneClass

/-- The tally of a simple selector, from the tallies of its arguments. -/
def ofSimple (s : Simple) (arguments : List Tally) : Tally :=
  match s with
  | .byId _ => oneId
  | .byClass _ | .byAttribute _ _ _ => oneClass
  | .type _ => oneType
  | .universal | .nesting => 0
  | .pseudoElement name _ _ => if name = "slotted" then oneType + greatest arguments else oneType
  | .pseudoClass name _ _ => ofPseudoClass name arguments

end Tally

/-- The tally of a simple selector. -/
def Simple.tally : Simple → Tally := Simple.measure Tally.ofSimple

/-- The tally of a selector. -/
def Selector.tally : Selector → Tally := Selector.measure Tally.ofSimple

theorem Simple.tally_eq (s : Simple) :
    s.tally = Tally.ofSimple s (s.arguments.map Selector.tally) := Simple.measure_eq _ s

theorem Selector.tally_eq (s : Selector) :
    Selector.tally s = (s.simples.map Simple.tally).sum := Selector.measure_eq_sum_simples _ s

/-! ### Tallies and sizes -/

namespace Tally

/-- A simple selector adds one count at most to those of its arguments. -/
theorem total_ofSimple_le (s : Simple) (arguments : List Tally) :
    (ofSimple s arguments).total ≤ 1 + (arguments.map total).sum := by
  have hgreatest := total_greatest_le arguments
  have hclass : (oneClass + greatest arguments).total = 1 + (greatest arguments).total :=
    total_add ..
  have htype : (oneType + greatest arguments).total = 1 + (greatest arguments).total :=
    total_add ..
  have hone : oneId.total = 1 ∧ oneClass.total = 1 ∧ oneType.total = 1 ∧ total 0 = 0 := by decide
  cases s with
  | pseudoClass name text _ =>
    rw [ofSimple, ofPseudoClass]
    split_ifs <;> omega
  | pseudoElement name text _ =>
    rw [ofSimple]
    split_ifs <;> omega
  | _ => rw [ofSimple]; omega

/-- A simple selector has no more counts than simples if its arguments do not. -/
theorem total_simple_le_size (s : Simple)
    (harguments : ∀ a ∈ s.arguments, (Selector.tally a).total ≤ Selector.size a) :
    s.tally.total ≤ s.size := by
  have hrule := total_ofSimple_le s (s.arguments.map Selector.tally)
  rw [List.map_map] at hrule
  rw [Simple.tally_eq, Simple.size_eq]
  exact hrule.trans (Nat.add_le_add_left (List.sum_le_sum harguments) 1)

/-- A selector has no more counts than simples. -/
theorem total_tally_le_size (s : Selector) : (Selector.tally s).total ≤ Selector.size s := by
  induction s using Selector.arguments_induction with
  | step s ih =>
    rw [Selector.tally_eq, total_sum, Selector.size_eq, List.map_map]
    exact List.sum_le_sum fun simple hsimple => total_simple_le_size simple (ih simple hsimple)

end Tally

end StyleLens
