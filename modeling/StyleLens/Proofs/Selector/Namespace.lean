import StyleLens.Proofs.Specificity
import StyleLens.Selector.Read

/-!
# Selectors behind a namespace

A selector in a namespace, as in `svg|rect`, is read as one simple: any element if the
text behind the prefix is `*`, and a type with that text for its name otherwise
(`Selector.specificity_read_namespaced`). The selector behind the prefix is not read
itself, so what it holds besides the name of an element becomes a part of that name.

So the prefix keeps the weight of the selector exactly if that weighs what its text says:
nothing behind `*`, and else just one type (`Selector.specificity_eq_oneType_iff`). A
class, an id or an attribute behind the prefix is lost from the weight
(`Selector.specificity_read_namespaced_lt`).
-/

namespace StyleLens

/-! ### Weights of types -/

namespace Specificity

variable {a b : Specificity} {ws : List Specificity}

/-- Whether a weight counts types at most. -/
def TypesOnly (w : Specificity) : Prop := w.ids = 0 ∧ w.classes = 0

instance (w : Specificity) : Decidable (TypesOnly w) :=
  inferInstanceAs (Decidable (w.ids = 0 ∧ w.classes = 0))

/-- A sum counts types at most exactly if each of its members does. -/
theorem typesOnly_sum_iff : TypesOnly ws.sum ↔ ∀ w ∈ ws, TypesOnly w := by
  induction ws with
  | nil => simp [TypesOnly, zero_def]
  | cons w ws ih =>
    rw [List.sum_cons, List.forall_mem_cons, ← ih]
    simp only [TypesOnly, add_def, Count.add_eq_zero_iff]
    tauto

/-- A weight that counts more than types is greater than any that does not. -/
theorem TypesOnly.lt (ha : TypesOnly a) (hb : ¬TypesOnly b) : a < b := by
  obtain ⟨hids, hclasses⟩ := ha
  change a.ids < b.ids ∨ a.ids = b.ids ∧
    (a.classes < b.classes ∨ a.classes = b.classes ∧ a.types < b.types)
  rw [hids, hclasses]
  simp only [TypesOnly, UInt32.lt_iff_toNat_lt, ← UInt32.toNat_inj, UInt32.toNat_zero] at hb ⊢
  omega

end Specificity

/-! ### Reading -/

namespace Selector

variable {source : String} {t x : Tree}

/-- A node that neither joins selectors nor is attached to one is read as the simple that it
    adds by itself. -/
theorem read_of_alone (hjoins : t.kind.combinator? = none) (hpart : ¬t.kind.isPart) :
    read source t = ⟨(Simple.read? source t (readArguments source t.children)).toList, []⟩ := by
  cases t with
  | node l cs =>
    have hjoins : l.kind.combinator? = none := hjoins
    have hpart : ¬l.kind.isPart := hpart
    rw [read, hjoins]
    dsimp only
    rw [if_neg hpart]
    rfl

/-- A node of such a kind weighs what its simple does. -/
theorem specificity_of_alone {kind : Kind} {s : Simple} (hkind : t.kind = kind)
    (hjoins : kind.combinator? = none) (hpart : ¬kind.isPart)
    (hsimple : Simple.read? source t (readArguments source t.children) = some s) :
    specificity (read source t) = s.specificity := by
  subst hkind
  rw [read_of_alone hjoins hpart, hsimple, specificity_eq_sum_simples]
  exact add_zero _

/-- A selector in a namespace weighs nothing if the text behind the prefix is `*`, and one
    type otherwise. -/
theorem specificity_read_namespaced (source : String) (hkind : t.kind = .selector .namespaced)
    (hlast : (t.children.filter (·.named)).getLast? = some x) :
    specificity (read source t) = if x.text source = "*" then 0 else .oneType := by
  have hsimple : Simple.read? source t (readArguments source t.children) =
      some (if x.text source = "*" then .universal else .type (x.text source)) := by
    rw [Simple.read?, hkind]
    dsimp only
    rw [hlast, Option.map_some]
  rw [specificity_of_alone hkind rfl (by decide) hsimple]
  split_ifs <;> rfl

/-- One of some simples weighs as a type, and the others nothing. -/
def OneType (simples : List Simple) : Prop :=
  ∃ front s back, simples = front ++ s :: back ∧ s.specificity = .oneType ∧
    ∀ r ∈ front ++ back, r.specificity = 0

theorem specificity_eq_zero_iff (s : Selector) :
    specificity s = 0 ↔ ∀ r ∈ s.simples, r.specificity = 0 := by
  rw [specificity_eq_sum_simples, Specificity.sum_eq_zero_iff, List.forall_mem_map]

theorem specificity_eq_oneType_iff (s : Selector) :
    specificity s = .oneType ↔ OneType s.simples := by
  rw [specificity_eq_sum_simples, Specificity.sum_eq_oneType_iff, OneType]
  constructor
  · rintro ⟨front, back, h, hzero⟩
    obtain ⟨front, rest, hsimples, rfl, hrest⟩ := List.map_eq_append_iff.1 h
    obtain ⟨r, back, rfl, hr, rfl⟩ := List.map_eq_cons_iff.1 hrest
    rw [← List.map_append, List.forall_mem_map] at hzero
    exact ⟨front, r, back, hsimples, hr, hzero⟩
  · rintro ⟨front, r, back, h, hr, hzero⟩
    refine ⟨front.map Simple.specificity, back.map Simple.specificity, ?_, ?_⟩
    · rw [h, List.map_append, List.map_cons, hr]
    · rw [← List.map_append, List.forall_mem_map]
      exact hzero

/-- What counts more than types is lost behind a prefix. -/
theorem specificity_read_namespaced_lt (hkind : t.kind = .selector .namespaced)
    (hlast : (t.children.filter (·.named)).getLast? = some x)
    {s : Simple} (hs : s ∈ (read source x).simples) (hmore : ¬s.specificity.TypesOnly) :
    specificity (read source t) < specificity (read source x) := by
  apply Specificity.TypesOnly.lt
  · rw [specificity_read_namespaced source hkind hlast]
    split_ifs <;> exact ⟨rfl, rfl⟩
  · rw [specificity_eq_sum_simples, Specificity.typesOnly_sum_iff, List.forall_mem_map]
    exact fun h => hmore (h s hs)

/-- The prefix of a namespace keeps the weight of the selector behind it exactly if that
    weighs what its text says: nothing if it is written `*`, and just one type otherwise. So
    it does for the name of an element and for `*`; but an id, a class or an attribute
    behind the prefix is lost. -/
theorem weight_behind_namespace_iff (source : String) {t x : Tree}
    (hkind : t.kind = .selector .namespaced)
    (hlast : (t.children.filter (·.named)).getLast? = some x) :
    (specificity (read source t) = specificity (read source x) ↔
      if x.text source = "*" then ∀ s ∈ (read source x).simples, s.specificity = 0
      else OneType (read source x).simples) ∧
    (x.kind = .selector .tag →
      (specificity (read source t) = specificity (read source x) ↔ x.text source ≠ "*")) ∧
    (x.kind = .selector .universal →
      (specificity (read source t) = specificity (read source x) ↔ x.text source = "*")) ∧
    ∀ s ∈ (read source x).simples, ¬s.specificity.TypesOnly →
      specificity (read source t) < specificity (read source x) := by
  have hne : (0 : Specificity) ≠ .oneType := by decide
  have hweight := specificity_read_namespaced source hkind hlast
  refine ⟨?_, fun htag => ?_, fun huniversal => ?_, fun s hs hmore =>
    specificity_read_namespaced_lt hkind hlast hs hmore⟩
  · rw [hweight, eq_comm]
    split_ifs
    · exact specificity_eq_zero_iff _
    · exact specificity_eq_oneType_iff _
  · have htype : specificity (read source x) = .oneType :=
      specificity_of_alone (s := .type (x.text source)) htag rfl (by decide)
        (by rw [Simple.read?, htag])
    rw [hweight, htype]
    split_ifs with hstar <;> simp [hstar, hne]
  · have hnothing : specificity (read source x) = 0 :=
      specificity_of_alone (s := .universal) huniversal rfl (by decide)
        (by rw [Simple.read?, huniversal])
    rw [hweight, hnothing]
    split_ifs with hstar <;> simp [hstar, hne.symm]

/-- The tree of `svg|rect`. -/
def namespacedType : Tree :=
  .node ⟨"namespace_selector", true, 0, 8⟩
    [.node ⟨"tag_name", true, 0, 3⟩ [], .node ⟨"|", false, 3, 4⟩ [],
      .node ⟨"tag_name", true, 4, 8⟩ []]

/-- The tree of `a.b` in `ns|a.b`. -/
def classBehindPrefix : Tree :=
  .node ⟨"class_selector", true, 3, 6⟩
    [.node ⟨"tag_name", true, 3, 4⟩ [], .node ⟨".", false, 4, 5⟩ [],
      .node ⟨"class_name", true, 5, 6⟩ [.node ⟨"identifier", true, 5, 6⟩ []]]

/-- The tree of `ns|a.b`, in which the class is attached to the name of the element. -/
def namespacedClass : Tree :=
  .node ⟨"namespace_selector", true, 0, 6⟩
    [.node ⟨"tag_name", true, 0, 2⟩ [], .node ⟨"|", false, 2, 3⟩ [], classBehindPrefix]

/-- The prefix of `svg|rect` keeps the weight of the type, and that of `ns|a.b` does not keep
    the weight of the class. -/
theorem weight_behind_namespace_iff_rect :
    specificity (read "svg|rect" namespacedType) =
        specificity (read "svg|rect" (.node ⟨"tag_name", true, 4, 8⟩ [])) ∧
      specificity (read "ns|a.b" namespacedClass) <
        specificity (read "ns|a.b" classBehindPrefix) := by
  obtain ⟨-, htag, -⟩ := weight_behind_namespace_iff "svg|rect"
    (t := namespacedType) (by decide) rfl
  obtain ⟨-, -, -, hlost⟩ := weight_behind_namespace_iff "ns|a.b"
    (t := namespacedClass) (by decide) rfl
  refine ⟨(htag (by decide)).2 (by decide), hlost (.byClass "b") ?_ (by decide)⟩
  exact List.mem_cons_of_mem _ List.mem_cons_self

/-- The class of `ns|a.b` is not in its weight. -/
theorem class_behind_namespace_is_lost :
    namespacedClass.kind = .selector .namespaced ∧
      (namespacedClass.children.filter (·.named)).getLast? = some classBehindPrefix ∧
      classBehindPrefix.kind.isSelector ∧
      specificity (read "ns|a.b" namespacedClass) = ⟨0, 0, 1⟩ ∧
      specificity (read "ns|a.b" classBehindPrefix) = ⟨0, 1, 1⟩ :=
  ⟨by decide, rfl, by decide, by decide, by decide⟩

end Selector

end StyleLens
