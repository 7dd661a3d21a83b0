import StyleLens.Selector.Basic
import StyleLens.Specificity
import StyleLens.Text.Basic

/-!
# Weights of selectors

The specificity of a selector is the sum over its compounds, and of a compound
the sum over its simple selectors. A pseudo-class that takes selectors weighs
as its most specific argument, never as their sum; which pseudo-classes do so,
and which add a weight of their own, is said by `PseudoRule.ofName`.

* `Selector.specificity_eq`, `Compound.specificity_eq`, `mostSpecific_eq`: the
  three sums and maxima as folds over lists of weights.
-/

namespace StyleLens

/-- The pseudo-elements that may be written with a single colon. -/
def singleColonElements : List String := ["before", "after", "first-line", "first-letter"]

/-! ### Rules of pseudo-classes -/

/-- How a pseudo-class weighs. -/
inductive PseudoRule where
  /-- Nothing, whatever its arguments. -/
  | nothing
  /-- As its most specific argument; without arguments, as a class. -/
  | argument
  /-- As a class and its most specific argument. -/
  | classAndArgument
  /-- As a type: it is a pseudo-element of old. -/
  | asType
  /-- As a class. -/
  | asClass
  deriving DecidableEq

/-- The rule of a pseudo-class by its name in small letters, with or without a
    vendor's mark. -/
def PseudoRule.ofName (name : String) : PseudoRule :=
  let base := match unmarked? name.toList with
    | some rest => String.ofList rest
    | none => name
  if base = "where" then nothing
  else if base ∈ ["is", "not", "has", "matches", "any"] then argument
  else if base ∈ ["host", "host-context", "nth-child", "nth-last-child"] then classAndArgument
  else if base ∈ singleColonElements then asType
  else asClass

/-- The weight of a pseudo-class under a rule, from the weights of its arguments. -/
def PseudoRule.weight (rule : PseudoRule) (arguments : List Specificity) : Specificity :=
  match rule with
  | nothing => 0
  | argument => if arguments.isEmpty then .oneClass else .greatest arguments
  | classAndArgument => .oneClass + .greatest arguments
  | asType => .oneType
  | asClass => .oneClass

/-- The weight of a pseudo-element, from the weights of its arguments: that of
    `::slotted` counts its most specific argument too. -/
def pseudoElementWeight (name : String) (arguments : List Specificity) : Specificity :=
  if name = "slotted" then .oneType + .greatest arguments else .oneType

/-! ### Weights -/

mutual

/-- The weight of a simple selector. -/
def Simple.specificity : Simple → Specificity
  | .byId _ => .oneId
  | .byClass _ | .byAttribute _ _ _ => .oneClass
  | .type _ => .oneType
  | .universal | .nesting => 0
  | .pseudoElement name _ arguments => pseudoElementWeight name (Selector.weights arguments)
  | .pseudoClass name _ arguments => (PseudoRule.ofName name).weight (Selector.weights arguments)

/-- The weights of some simple selectors. -/
def Simple.weights : List Simple → List Specificity
  | [] => []
  | s :: ss => s.specificity :: Simple.weights ss

/-- The weight of a combinator and a compound, which is that of the compound. -/
def Selector.linkSpecificity : Combinator × List Simple → Specificity
  | (_, compound) => .sum (Simple.weights compound)

/-- The weights of some combinators with compounds. -/
def Selector.linkWeights : List (Combinator × List Simple) → List Specificity
  | [] => []
  | link :: links => Selector.linkSpecificity link :: Selector.linkWeights links

/-- The weight of a selector. -/
def Selector.specificity : Selector → Specificity
  | ⟨first, rest⟩ => .sum (.sum (Simple.weights first) :: Selector.linkWeights rest)

/-- The weights of some selectors. -/
def Selector.weights : List Selector → List Specificity
  | [] => []
  | s :: ss => Selector.specificity s :: Selector.weights ss

end

/-- The weight of a compound. -/
def Compound.specificity (c : Compound) : Specificity := .sum (Simple.weights c)

/-- The weight of a list of selectors given as arguments: the most specific one. -/
def mostSpecific (arguments : List Selector) : Specificity := .greatest (Selector.weights arguments)

theorem Simple.weights_eq (ss : List Simple) : Simple.weights ss = ss.map Simple.specificity := by
  induction ss with
  | nil => simp [Simple.weights]
  | cons s ss ih => simp [Simple.weights, ih]

theorem Selector.weights_eq (ss : List Selector) :
    Selector.weights ss = ss.map Selector.specificity := by
  induction ss with
  | nil => simp [Selector.weights]
  | cons s ss ih => simp [Selector.weights, ih]

theorem Selector.linkWeights_eq (links : List (Combinator × List Simple)) :
    Selector.linkWeights links = links.map fun link => Compound.specificity link.2 := by
  induction links with
  | nil => simp [Selector.linkWeights]
  | cons link links ih =>
    obtain ⟨c, compound⟩ := link
    simp [Selector.linkWeights, Selector.linkSpecificity, Compound.specificity, ih]

/-- A compound weighs the sum of its simple selectors. -/
theorem Compound.specificity_eq (c : Compound) :
    c.specificity = .sum (c.map Simple.specificity) := by
  rw [Compound.specificity, Simple.weights_eq]

/-- A selector weighs the sum of its compounds. -/
theorem Selector.specificity_eq (s : Selector) :
    Selector.specificity s = .sum (s.compounds.map fun link => Compound.specificity link.2) := by
  obtain ⟨first, rest⟩ := s
  simp [Selector.specificity, Selector.linkWeights_eq, Chain.compounds, Compound.specificity,
    Function.comp_def]

/-- A list of arguments weighs as the greatest of them. -/
theorem mostSpecific_eq (arguments : List Selector) :
    mostSpecific arguments = .greatest (arguments.map Selector.specificity) := by
  rw [mostSpecific, Selector.weights_eq]

end StyleLens
