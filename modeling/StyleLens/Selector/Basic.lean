/-!
# Selectors

The flat reading of a selector: a first compound, then combinators each with
the compound that follows it, as in `a b`, `a > b`, `a + b` and `a ~ b`. A
compound is a list of simple selectors with nothing between them. The arguments
of a pseudo-class or a pseudo-element are selectors again, so a selector is a
tree through them and only through them.
-/

namespace StyleLens

/-- The relation that a combinator of a selector states between two elements. -/
inductive Combinator where
  /-- Written as a blank: somewhere inside. -/
  | descendant
  /-- Written `>`: directly inside. -/
  | child
  /-- Written `+`: directly after. -/
  | nextSibling
  /-- Written `~`: somewhere after. -/
  | subsequentSibling
  deriving DecidableEq

/-- Compounds of simple selectors of type `σ`, joined by combinators. -/
structure Chain (σ : Type) where
  first : List σ
  rest : List (Combinator × List σ)

/-- A simple selector. -/
inductive Simple where
  /-- An element by its name, as in `a`. -/
  | type (name : String)
  /-- Any element: `*`. -/
  | universal
  /-- The selector of the enclosing rule: `&`. -/
  | nesting
  | byClass (name : String)
  | byId (name : String)
  | byAttribute (name : String) (operator value : Option String)
  /-- A pseudo-class: its name in small letters, its text from the colon on,
      and the selectors among its arguments. -/
  | pseudoClass (name text : String) (arguments : List (Chain Simple))
  /-- A pseudo-element, likewise. -/
  | pseudoElement (name text : String) (arguments : List (Chain Simple))

/-- Simple selectors that all speak of one element. -/
abbrev Compound := List Simple

/-- Compounds joined by combinators. -/
abbrev Selector := Chain Simple

/-- Whether a simple selector is `&`. -/
def Simple.isAmpersand : Simple → Bool
  | .nesting => true
  | _ => false

/-- Whether a compound refers to the enclosing rule by `&`. -/
def Compound.hasAmpersand (c : Compound) : Bool := c.any Simple.isAmpersand

namespace Chain

variable {σ : Type}

/-- The chain of one empty compound. -/
def empty : Chain σ := ⟨[], []⟩

/-- The compounds in order, each with the combinator in front of it. -/
def compounds (s : Chain σ) : List (Option Combinator × List σ) :=
  (none, s.first) :: s.rest.map fun (c, compound) => (some c, compound)

/-- A chain, a combinator, and then another chain. -/
def join (s : Chain σ) (c : Combinator) (t : Chain σ) : Chain σ :=
  ⟨s.first, s.rest ++ (c, t.first) :: t.rest⟩

/-- The links of a chain with simples added to the compound of the last one. -/
def extendLinks (extra : List σ) : List (Combinator × List σ) → List (Combinator × List σ)
  | [] => []
  | [(c, compound)] => [(c, compound ++ extra)]
  | link :: next :: rest => link :: extendLinks extra (next :: rest)

/-- A chain with simples added to its last compound. -/
def extendLast (s : Chain σ) (extra : List σ) : Chain σ :=
  match s.rest with
  | [] => ⟨s.first ++ extra, []⟩
  | rest => ⟨s.first, extendLinks extra rest⟩

end Chain

end StyleLens
