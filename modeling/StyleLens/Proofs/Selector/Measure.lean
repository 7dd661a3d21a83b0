import Mathlib.Algebra.BigOperators.Group.List.Basic
import Mathlib.Algebra.GroupWithZero.Nat
import Mathlib.Algebra.Order.BigOperators.Group.List
import Mathlib.Algebra.Order.Group.Nat
import StyleLens.Proofs.Selector.Chain

/-!
# Measures of selectors

A selector is a tree through the arguments of its simple selectors. A measure of
selectors is given by a rule for a simple selector, which may use the measures
of the arguments, and it adds up over the simples of a selector:

* `Selector.measure`: the measure of a selector by a rule;
* `Selector.size`: the number of simples, those in arguments among them;
* `Selector.arguments_induction`: what holds of a selector if it holds of the
  arguments in it holds of all selectors.
-/

namespace StyleLens

/-- The selectors among the arguments of a simple selector. -/
def Simple.arguments : Simple → List Selector
  | .pseudoClass _ _ arguments | .pseudoElement _ _ arguments => arguments
  | _ => []

/-! ### Measures by a rule -/

section

variable {β : Type} [AddMonoid β] (rule : Simple → List β → β)

mutual

/-- The measure of a simple selector. -/
def Simple.measure : Simple → β
  | .pseudoClass name text arguments =>
    rule (.pseudoClass name text arguments) (Selector.measures arguments)
  | .pseudoElement name text arguments =>
    rule (.pseudoElement name text arguments) (Selector.measures arguments)
  | .type name => rule (.type name) []
  | .universal => rule .universal []
  | .nesting => rule .nesting []
  | .byClass name => rule (.byClass name) []
  | .byId name => rule (.byId name) []
  | .byAttribute name operator value => rule (.byAttribute name operator value) []

/-- The measures of some simple selectors. -/
def Simple.measures : List Simple → List β
  | [] => []
  | s :: ss => s.measure :: Simple.measures ss

/-- The measure of a combinator and a compound, which is that of the compound. -/
def Selector.linkMeasure : Combinator × List Simple → β
  | (_, compound) => (Simple.measures compound).sum

/-- The measures of some combinators with compounds. -/
def Selector.linkMeasures : List (Combinator × List Simple) → List β
  | [] => []
  | link :: links => Selector.linkMeasure link :: Selector.linkMeasures links

/-- The measure of a selector: the sum over its compounds. -/
def Selector.measure : Selector → β
  | ⟨first, rest⟩ => (Simple.measures first).sum + (Selector.linkMeasures rest).sum

/-- The measures of some selectors. -/
def Selector.measures : List Selector → List β
  | [] => []
  | s :: ss => Selector.measure s :: Selector.measures ss

end

theorem Simple.measures_eq (ss : List Simple) :
    Simple.measures rule ss = ss.map (Simple.measure rule) := by
  induction ss with
  | nil => rw [Simple.measures, List.map_nil]
  | cons s ss ih => rw [Simple.measures, ih, List.map_cons]

theorem Selector.measures_eq (ss : List Selector) :
    Selector.measures rule ss = ss.map (Selector.measure rule) := by
  induction ss with
  | nil => rw [Selector.measures, List.map_nil]
  | cons s ss ih => rw [Selector.measures, ih, List.map_cons]

/-- A simple selector measures what the rule says, from the measures of its
    arguments. -/
theorem Simple.measure_eq (s : Simple) :
    s.measure rule = rule s (s.arguments.map (Selector.measure rule)) := by
  cases s with
  | pseudoClass name text arguments =>
    rw [Simple.measure, Selector.measures_eq, Simple.arguments]
  | pseudoElement name text arguments =>
    rw [Simple.measure, Selector.measures_eq, Simple.arguments]
  | _ => rw [Simple.measure]; rfl

/-- A selector measures the sum of its simples. -/
theorem Selector.measure_eq_sum_simples (s : Selector) :
    Selector.measure rule s = (s.simples.map (Simple.measure rule)).sum := by
  obtain ⟨first, rest⟩ := s
  rw [Selector.measure, Simple.measures_eq, Chain.simples, List.map_append, List.sum_append]
  congr 1
  induction rest with
  | nil => rw [Selector.linkMeasures, List.flatMap_nil, List.map_nil]
  | cons link rest ih =>
    obtain ⟨c, compound⟩ := link
    rw [Selector.linkMeasures, Selector.linkMeasure, Simple.measures_eq, List.sum_cons, ih,
      List.flatMap_cons, List.map_append, List.sum_append]

end

/-! ### Size -/

/-- The size of a simple selector: one, and the sizes of its arguments. -/
def Simple.size : Simple → Nat := Simple.measure fun _ sizes => 1 + sizes.sum

/-- The number of simples of a selector, those in arguments at any depth among them. -/
def Selector.size : Selector → Nat := Selector.measure fun _ sizes => 1 + sizes.sum

theorem Simple.size_eq (s : Simple) : s.size = 1 + (s.arguments.map Selector.size).sum :=
  Simple.measure_eq _ s

theorem Selector.size_eq (s : Selector) : Selector.size s = (s.simples.map Simple.size).sum :=
  Selector.measure_eq_sum_simples _ s

variable {s a : Selector} {simple : Simple}

theorem Simple.size_le_of_mem (h : simple ∈ s.simples) : simple.size ≤ Selector.size s := by
  rw [Selector.size_eq]
  exact List.le_sum_of_mem (List.mem_map_of_mem h)

/-- An argument is smaller than the selector that it stands in. -/
theorem Selector.size_lt_of_mem_arguments (h : simple ∈ s.simples) (ha : a ∈ simple.arguments) :
    Selector.size a < Selector.size s := by
  have harguments : Selector.size a ≤ (simple.arguments.map Selector.size).sum :=
    List.le_sum_of_mem (List.mem_map_of_mem ha)
  have hsimple := Simple.size_le_of_mem h
  rw [Simple.size_eq] at hsimple
  omega

/-- Induction on selectors: what holds of a selector if it holds of all arguments of
    its simples holds of every selector. -/
theorem Selector.arguments_induction {P : Selector → Prop}
    (step : ∀ s : Selector, (∀ simple ∈ s.simples, ∀ a ∈ simple.arguments, P a) → P s)
    (s : Selector) : P s :=
  step s fun _ hsimple a ha =>
    have := Selector.size_lt_of_mem_arguments hsimple ha
    Selector.arguments_induction step a
termination_by Selector.size s

end StyleLens
