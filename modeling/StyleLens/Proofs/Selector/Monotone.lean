import Mathlib.Data.List.Forall2
import StyleLens.Proofs.Selector.Exactness

/-!
# Weights under replacement of an argument

The selectors among the arguments of a selector stand at places: in which compound,
at which simple of it, and which of its arguments; and inside of an argument there
are places again. A path of places leads to an argument at any depth
(`Selector.argumentAt?`), where another selector can be put (`Selector.replaceAt`),
and nothing else is changed by that (`Selector.replaceAt_replaceAt`).

An argument counts in the weight of the selector around it by sums and by greatest
weights, if it counts at all. Sums of cut counts do not keep the order of weights,
but sums of tallies do, and so does every rule:

* `Tally.ofSimple_mono`: a simple selector tallies more if its arguments do;
* `Selector.tally_le_changeArgument`: one level, a selector around an argument;
* `Selector.tally_le_replaceAt`: all levels on the way to a place.

Below 2^32 simples weights are tallies, so a selector weighs no less with a heavier
argument (`Selector.heavier_argument_weighs_no_less`).
-/

namespace StyleLens

/-! ### Sums and greatest tallies in order -/

namespace Tally

variable {a b c d : Tally} {ts us : List Tally}

theorem add_le_add (h : a ≤ b) (h' : c ≤ d) : a + c ≤ b + d := by
  rw [le_iff] at h h' ⊢
  simp only [add_def]
  omega

instance : AddLeftMono Tally := ⟨fun _ _ _ h => add_le_add le_rfl h⟩

instance : AddRightMono Tally := ⟨fun _ _ _ h => add_le_add h le_rfl⟩

theorem greatest_cons (t : Tally) (ts : List Tally) : greatest (t :: ts) = max t (greatest ts) := by
  rw [greatest, greatest, List.max?_cons]
  cases ts.max? with
  | none => exact (max_eq_left (zero_le t)).symm
  | some u => rfl

/-- Of greater tallies, the greatest one is greater. -/
theorem greatest_mono (h : List.Forall₂ (· ≤ ·) ts us) : greatest ts ≤ greatest us := by
  induction h with
  | nil => exact le_rfl
  | cons hle _ ih =>
    rw [greatest_cons, greatest_cons]
    exact max_le_max hle ih

/-- A pseudo-class tallies more if its arguments do. -/
theorem ofPseudoClass_mono (name : String) (h : List.Forall₂ (· ≤ ·) ts us) :
    ofPseudoClass name ts ≤ ofPseudoClass name us := by
  have hgreatest := greatest_mono h
  have hnone : ts = [] ↔ us = [] := by
    rw [← List.length_eq_zero_iff, h.length_eq, List.length_eq_zero_iff]
  rw [ofPseudoClass, ofPseudoClass]
  simp only [hnone]
  split_ifs
  · exact le_rfl
  · exact le_rfl
  · exact hgreatest
  · exact add_le_add le_rfl hgreatest
  · exact le_rfl
  · exact le_rfl

/-- A simple selector tallies more if its arguments do. -/
theorem ofSimple_mono (s : Simple) (h : List.Forall₂ (· ≤ ·) ts us) :
    ofSimple s ts ≤ ofSimple s us := by
  cases s with
  | pseudoClass name text _ => exact ofPseudoClass_mono name h
  | pseudoElement name text _ =>
    rw [ofSimple, ofSimple]
    split_ifs
    · exact add_le_add le_rfl (greatest_mono h)
    · exact le_rfl
  | _ => exact le_rfl

end Tally

/-! ### Places of arguments -/

/-- A chain with one of its compounds changed. -/
def Chain.changeCompound {σ : Type} (k : Nat) (f : List σ → List σ) (s : Chain σ) : Chain σ :=
  match k with
  | 0 => ⟨f s.first, s.rest⟩
  | k + 1 => ⟨s.first, s.rest.modify k (Prod.map id f)⟩

/-- A simple selector with one of its arguments changed. -/
def Simple.changeArgument (j : Nat) (f : Selector → Selector) : Simple → Simple
  | .pseudoClass name text arguments => .pseudoClass name text (arguments.modify j f)
  | .pseudoElement name text arguments => .pseudoElement name text (arguments.modify j f)
  | s => s

namespace Selector

/-- A place among the arguments of a selector: the number of a compound, of a simple
    in it, and of an argument of that. -/
structure Place where
  compound : Nat
  simple : Nat
  argument : Nat

/-- The argument at a place of a selector. -/
def argument? (p : Place) (s : Selector) : Option Selector := do
  let link ← s.compounds[p.compound]?
  let simple ← link.2[p.simple]?
  simple.arguments[p.argument]?

/-- A selector with the argument at a place changed. -/
def changeArgument (p : Place) (f : Selector → Selector) (s : Selector) : Selector :=
  s.changeCompound p.compound fun compound =>
    compound.modify p.simple (Simple.changeArgument p.argument f)

/-- The argument at the end of a path: each place is one in the argument that the places
    before it lead to. -/
def argumentAt? : List Place → Selector → Option Selector
  | [], s => some s
  | p :: path, s => (argument? p s).bind (argumentAt? path)

/-- A selector with `b` in place of the argument at the end of a path. -/
def replaceAt (b : Selector) : List Place → Selector → Selector
  | [], _ => b
  | p :: path, s => changeArgument p (replaceAt b path) s

end Selector

/-! ### One part changed -/

section

variable {α : Type} {xs : List α} {i : Nat} {f : α → α}

/-- A list and the same list with one member changed are related member by member. -/
theorem forall₂_modify {R : α → α → Prop} (hrefl : ∀ x, R x x)
    (h : ∀ x, xs[i]? = some x → R x (f x)) : List.Forall₂ R xs (xs.modify i f) := by
  induction xs generalizing i with
  | nil => simp
  | cons x xs ih =>
    cases i with
    | zero => exact .cons (h x rfl) (List.forall₂_same.2 fun y _ => hrefl y)
    | succ i => exact .cons (hrefl x) (ih h)

/-- A list stays as it is if one member is changed to itself. -/
theorem modify_eq_self (h : ∀ x, xs[i]? = some x → f x = x) : xs.modify i f = xs := by
  have hsame : List.Forall₂ (· = ·) xs (xs.modify i f) :=
    forall₂_modify (fun _ => rfl) fun x hx => (h x hx).symm
  rw [List.forall₂_eq_eq_eq] at hsame
  exact hsame.symm

end

namespace Chain

variable {σ : Type} {k : Nat} {f g : List σ → List σ} {s : Chain σ}

theorem simples_eq_flatMap (s : Chain σ) : s.simples = s.compounds.flatMap Prod.snd := by
  rw [simples, compounds, List.flatMap_cons, List.flatMap_map]

/-- Changing a compound changes it in the list of compounds. -/
theorem compounds_changeCompound :
    (s.changeCompound k f).compounds = s.compounds.modify k (Prod.map id f) := by
  cases k with
  | zero => rfl
  | succ k =>
    rw [changeCompound, compounds, compounds, List.modify_succ_cons]
    refine congrArg (List.cons _) (List.ext_getElem? fun i => ?_)
    rw [List.getElem?_map, List.getElem?_modify, List.getElem?_modify, List.getElem?_map]
    cases s.rest[i]? with
    | none => rfl
    | some link => by_cases hi : k = i <;> simp [hi]

theorem changeCompound_changeCompound :
    (s.changeCompound k f).changeCompound k g = s.changeCompound k (g ∘ f) := by
  cases k with
  | zero => rfl
  | succ k => simp only [changeCompound, List.modify_modify_eq, Prod.map_comp_map, Function.comp_id]

theorem changeCompound_eq_self (h : ∀ link, s.compounds[k]? = some link → f link.2 = link.2) :
    s.changeCompound k f = s := by
  cases k with
  | zero => rw [changeCompound, h (none, s.first) rfl]
  | succ k =>
    have hrest : s.rest.modify k (Prod.map id f) = s.rest := by
      refine modify_eq_self fun link hlink => ?_
      have hcompound := h (some link.1, link.2) (by simp [compounds, hlink])
      rw [Prod.map, hcompound]
      rfl
    rw [changeCompound, hrest]

end Chain

namespace Simple

variable {j : Nat} {f g : Selector → Selector} {s : Simple}

theorem arguments_changeArgument :
    (s.changeArgument j f).arguments = s.arguments.modify j f := by
  cases s with
  | pseudoClass name text arguments => rfl
  | pseudoElement name text arguments => rfl
  | _ => simp [changeArgument, arguments]

theorem changeArgument_changeArgument :
    (s.changeArgument j f).changeArgument j g = s.changeArgument j (g ∘ f) := by
  cases s with
  | pseudoClass name text arguments => simp only [changeArgument, List.modify_modify_eq]
  | pseudoElement name text arguments => simp only [changeArgument, List.modify_modify_eq]
  | _ => rfl

theorem changeArgument_eq_self (h : ∀ a, s.arguments[j]? = some a → f a = a) :
    s.changeArgument j f = s := by
  cases s with
  | pseudoClass name text arguments => exact congrArg (pseudoClass name text) (modify_eq_self h)
  | pseudoElement name text arguments => exact congrArg (pseudoElement name text) (modify_eq_self h)
  | _ => rfl

/-- How a simple selector tallies its arguments does not depend on what they are. -/
theorem ofSimple_changeArgument (ts : List Tally) :
    Tally.ofSimple (s.changeArgument j f) ts = Tally.ofSimple s ts := by
  cases s <;> rfl

/-- A simple selector tallies more with an argument that does. -/
theorem tally_le_changeArgument
    (h : ∀ a, s.arguments[j]? = some a → Selector.tally a ≤ Selector.tally (f a)) :
    s.tally ≤ (s.changeArgument j f).tally := by
  have harguments := forall₂_modify (R := fun a b => Selector.tally a ≤ Selector.tally b)
    (fun a => le_rfl) h
  rw [tally_eq, tally_eq, ofSimple_changeArgument, arguments_changeArgument]
  apply Tally.ofSimple_mono
  rwa [List.forall₂_map_left_iff, List.forall₂_map_right_iff]

end Simple

namespace Selector

variable {s t a b : Selector} {p : Place} {path : List Place} {f g : Selector → Selector}

theorem argument?_eq_some_iff :
    argument? p s = some a ↔
      ∃ link simple, s.compounds[p.compound]? = some link ∧ link.2[p.simple]? = some simple ∧
        simple.arguments[p.argument]? = some a := by
  simp only [argument?, Option.bind_eq_bind, Option.bind_eq_some_iff]
  constructor
  · rintro ⟨link, hlink, simple, hsimple, ha⟩
    exact ⟨link, simple, hlink, hsimple, ha⟩
  · rintro ⟨link, simple, hlink, hsimple, ha⟩
    exact ⟨link, hlink, simple, hsimple, ha⟩

theorem argument?_changeArgument :
    argument? p (changeArgument p f s) = (argument? p s).map f := by
  simp only [argument?, changeArgument, Chain.compounds_changeCompound, List.getElem?_modify_eq]
  cases s.compounds[p.compound]? with
  | none => rfl
  | some link =>
    cases hsimple : link.2[p.simple]? with
    | none => simp [hsimple]
    | some simple => simp [hsimple, Simple.arguments_changeArgument]

theorem changeArgument_changeArgument :
    changeArgument p g (changeArgument p f s) = changeArgument p (g ∘ f) s := by
  rw [changeArgument, changeArgument, Chain.changeCompound_changeCompound, changeArgument]
  congr 1
  funext compound
  rw [Function.comp_apply, List.modify_modify_eq]
  congr 1
  funext simple
  exact Simple.changeArgument_changeArgument

theorem changeArgument_eq_self (h : ∀ a, argument? p s = some a → f a = a) :
    changeArgument p f s = s := by
  refine Chain.changeCompound_eq_self fun link hlink => modify_eq_self fun simple hsimple => ?_
  refine Simple.changeArgument_eq_self fun a ha => ?_
  exact h a (argument?_eq_some_iff.2 ⟨link, simple, hlink, hsimple, ha⟩)

/-- A selector tallies more if its simples do. -/
theorem tally_mono (h : List.Forall₂ (fun x y => x.tally ≤ y.tally) s.simples t.simples) :
    tally s ≤ tally t := by
  rw [tally_eq, tally_eq]
  apply List.Forall₂.sum_le_sum
  rwa [List.forall₂_map_left_iff, List.forall₂_map_right_iff]

/-- A selector tallies more with an argument that does. -/
theorem tally_le_changeArgument (h : ∀ a, argument? p s = some a → tally a ≤ tally (f a)) :
    tally s ≤ tally (changeArgument p f s) := by
  apply tally_mono
  rw [Chain.simples_eq_flatMap, Chain.simples_eq_flatMap, changeArgument,
    Chain.compounds_changeCompound]
  refine List.rel_flatMap (R := fun link link' =>
    List.Forall₂ (fun x y : Simple => x.tally ≤ y.tally) link.2 link'.2) ?_ fun _ _ h => h
  apply forall₂_modify
  · exact fun link => List.forall₂_same.2 fun x _ => le_rfl
  · -- In the compound that is changed, one simple is.
    intro link hlink
    apply forall₂_modify
    · exact fun x => le_rfl
    · intro simple hsimple
      refine Simple.tally_le_changeArgument fun a ha => ?_
      exact h a (argument?_eq_some_iff.2 ⟨link, simple, hlink, hsimple, ha⟩)

/-- An argument is no larger than the selector that it stands in. -/
theorem size_le_of_argument? (ha : argument? p s = some a) : size a ≤ size s := by
  obtain ⟨link, simple, hlink, hsimple, ha⟩ := argument?_eq_some_iff.1 ha
  have hmem : simple ∈ s.simples := by
    rw [Chain.simples_eq_flatMap]
    exact List.mem_flatMap_of_mem (List.mem_of_getElem? hlink) (List.mem_of_getElem? hsimple)
  exact (size_lt_of_mem_arguments hmem (List.mem_of_getElem? ha)).le

/-! ### All levels -/

/-- The replacement stands where the argument stood. -/
theorem argumentAt?_replaceAt (ha : argumentAt? path s = some a) :
    argumentAt? path (replaceAt b path s) = some b := by
  induction path generalizing s with
  | nil => rfl
  | cons p path ih =>
    obtain ⟨c, hc, ha⟩ := Option.bind_eq_some_iff.1 ha
    rw [replaceAt, argumentAt?, argument?_changeArgument, hc, Option.map_some, Option.bind_some]
    exact ih ha

/-- With the argument put back, the selector is what it was. -/
theorem replaceAt_replaceAt (ha : argumentAt? path s = some a) :
    replaceAt a path (replaceAt b path s) = s := by
  induction path generalizing s with
  | nil =>
    cases ha
    rfl
  | cons p path ih =>
    obtain ⟨c, hc, ha⟩ := Option.bind_eq_some_iff.1 ha
    rw [replaceAt, replaceAt, changeArgument_changeArgument]
    refine changeArgument_eq_self fun c' hc' => ?_
    cases hc.symm.trans hc'
    exact ih ha

/-- A selector tallies more with a replacement that tallies more than the argument. -/
theorem tally_le_replaceAt (ha : argumentAt? path s = some a) (hab : tally a ≤ tally b) :
    tally s ≤ tally (replaceAt b path s) := by
  induction path generalizing s with
  | nil =>
    cases ha
    exact hab
  | cons p path ih =>
    obtain ⟨c, hc, ha⟩ := Option.bind_eq_some_iff.1 ha
    refine tally_le_changeArgument fun c' hc' => ?_
    cases hc.symm.trans hc'
    exact ih ha

theorem size_le_of_argumentAt? (ha : argumentAt? path s = some a) : size a ≤ size s := by
  induction path generalizing s with
  | nil =>
    cases ha
    exact le_rfl
  | cons p path ih =>
    obtain ⟨c, hc, ha⟩ := Option.bind_eq_some_iff.1 ha
    exact (ih ha).trans (size_le_of_argument? hc)

/-- Below 2^32 simples, weights are in the order of tallies. -/
theorem tally_le_iff (hs : size s < UInt32.size) (ht : size t < UInt32.size) :
    tally s ≤ tally t ↔ specificity s ≤ specificity t := by
  rw [← toTally_specificity s hs, ← toTally_specificity t ht, Specificity.toTally_le_iff]

/-- An argument in a selector, at any depth, is replaced by a selector that weighs no less.
    Then that one stands in its place and nothing else is changed, and the selector weighs
    no less than before, as long as there are less than 2^32 simples in it. -/
theorem heavier_argument_weighs_no_less (ha : argumentAt? path s = some a)
    (hab : specificity a ≤ specificity b) (hs : size s < UInt32.size)
    (ht : size (replaceAt b path s) < UInt32.size) :
    argumentAt? path (replaceAt b path s) = some b ∧ replaceAt a path (replaceAt b path s) = s ∧
      specificity s ≤ specificity (replaceAt b path s) := by
  refine ⟨argumentAt?_replaceAt ha, replaceAt_replaceAt ha, ?_⟩
  -- The argument and its replacement are parts of the two selectors, so their weights
  -- are tallies too.
  have hasize : size a < UInt32.size := (size_le_of_argumentAt? ha).trans_lt hs
  have hbsize : size b < UInt32.size :=
    (size_le_of_argumentAt? (argumentAt?_replaceAt ha)).trans_lt ht
  rw [← tally_le_iff hs ht]
  exact tally_le_replaceAt ha ((tally_le_iff hasize hbsize).2 hab)

/-- In `#a:-webkit-any(.b, c:not(#d)) ::slotted(.e)`, `#d` is replaced by `#d.f`. -/
theorem heavier_argument_weighs_no_less_nestedArguments :
    argumentAt? [⟨0, 1, 1⟩, ⟨0, 1, 0⟩] nestedArguments = some ⟨[.byId "d"], []⟩ ∧
      specificity nestedArguments ≤
        specificity (replaceAt ⟨[.byId "d", .byClass "f"], []⟩ [⟨0, 1, 1⟩, ⟨0, 1, 0⟩]
          nestedArguments) := by
  have ha : argumentAt? [⟨0, 1, 1⟩, ⟨0, 1, 0⟩] nestedArguments = some ⟨[.byId "d"], []⟩ := rfl
  exact ⟨ha, (heavier_argument_weighs_no_less ha (by decide) (by decide) (by decide)).2.2⟩

end Selector

end StyleLens
