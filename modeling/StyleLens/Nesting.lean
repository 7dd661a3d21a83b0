import StyleLens.Preview.Basic
import StyleLens.Selector.Read
import StyleLens.Selector.Weight
import StyleLens.Tree.Focus

/-!
# Nested rules

A rule inside another rule speaks of elements inside, or of, those of the outer
rule. The context of a selector is the first selector of each rule around its
own (`Nesting.context`), and its report adds up what they weigh and draws what
they match (`Report.ofSelector`).

The context ends at the stylesheet and, in SCSS, at an `@at-root` rule, which
puts what it holds back at the top.
-/

namespace StyleLens

namespace Nesting

/-- The first selector of a rule. -/
def lead? (rule : Focus) : Option Focus :=
  (rule.children.find? (·.kind = .selectors)).bind fun selectors =>
    selectors.children.find? (·.kind.isSelector)

/-- Whether an at-rule is `@at-root`, in any letter case. -/
def leavesNesting (source : String) (rule : Tree) : Bool :=
  (rule.children.find? (·.kind = .atKeyword)).any fun keyword =>
    Text.lower ((keyword.text source).toList.dropWhile (· = '@')) == "at-root".toList

/-- The first selectors of the rules on the way up a trail, outermost first. -/
def enclosing (source : String) (dialect : Dialect) : List Step → List Focus
  | [] => []
  | step :: trail =>
    match step.parent.kind with
    | .stylesheet => []
    | .ruleSet => enclosing source dialect trail ++ (lead? ⟨step.parent, trail⟩).toList
    | .statement .atRule =>
      if dialect = .scss ∧ leavesNesting source step.parent then [] else enclosing source dialect trail
    | _ => enclosing source dialect trail

/-- The rule that a selector is an item of: its parent is the selector list of it. -/
def ownRule? (selector : Focus) : Option Focus :=
  match selector.trail with
  | list :: rule :: trail =>
    if list.parent.kind = .selectors ∧ rule.parent.kind = .ruleSet then some ⟨rule.parent, trail⟩
    else none
  | _ => none

/-- The first selectors of the rules around the rule of a selector, outermost
    first. -/
def context (source : String) (dialect : Dialect) (selector : Focus) : List Focus :=
  match ownRule? selector with
  | some rule => enclosing source dialect rule.trail
  | none => []

end Nesting

/-- What there is to say about a selector in the context of its nested rules. -/
structure Report where
  /-- The weight of the selector as it is written. -/
  own : Specificity
  /-- The weight of all levels together. -/
  total : Specificity
  /-- The weight of each level, outermost first and the selector last. -/
  levels : List Specificity
  /-- The elements that the levels match. -/
  preview : String

/-- The report on a selector. -/
def Report.ofSelector (source : String) (dialect : Dialect) (selector : Focus) : Report :=
  let own := Selector.read source selector.node
  let around := (Nesting.context source dialect selector).map fun f => Selector.read source f.node
  let all := around ++ [own]
  let levels := all.map Selector.specificity
  ⟨own.specificity, .sum levels, levels, (Preview.ofLevels all).render⟩

end StyleLens
