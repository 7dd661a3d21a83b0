import Mathlib.Data.List.Infix
import Mathlib.Data.List.TakeWhile
import StyleLens.Nesting
import StyleLens.Proofs.Specificity
import StyleLens.Proofs.Tree.Nested

/-!
# A rule inside a rule

The context of a selector is found by one climb out of its rule. It is also what
a reader gets who goes from rule to rule: the rule next around the own one
(`Nesting.IsAround`) adds its first selector to the context of that selector,
which was found by a climb of its own.

The link between the two is what a climb passes (`Nesting.passed`): the ancestors
of the rule up to the first one that ends it. A context is the first selectors of
the rules among them (`Nesting.context_eq`), and what the climb out of a rule
passes goes on as what the climb out of the next rule passes
(`Nesting.IsAround.passed_eq`).

* `Nesting.IsAround.context_eq`: the context goes on from the rule around;
* `Nesting.IsAround.context_eq_nil`, `Nesting.context_eq_nil_of_top`: where it
  starts;
* `Nesting.context_scss_suffix`: in SCSS only outer levels can be missing.
-/

namespace StyleLens

namespace Focus

/-- The nodes that a trail leads up to, nearest first. -/
def onTrail : List Step → List Focus
  | [] => []
  | step :: trail => ⟨step.parent, trail⟩ :: onTrail trail

/-- The ancestors of a node, its parent first and the root last. -/
def ancestors (f : Focus) : List Focus := onTrail f.trail

/-- The ancestors of an ancestor are those that come after it. -/
theorem ancestors_of_split {f a : Focus} {before after : List Focus}
    (h : f.ancestors = before ++ a :: after) : a.ancestors = after := by
  obtain ⟨node, trail⟩ := f
  change onTrail trail = _ at h
  induction trail generalizing before with
  | nil => simp [onTrail] at h
  | cons step trail ih =>
    rw [onTrail] at h
    cases before with
    | nil =>
      obtain ⟨rfl, rfl⟩ := List.cons.inj h
      rfl
    | cons b before => exact ih (List.cons.inj h).2

end Focus

namespace Nesting

variable {source : String} {dialect : Dialect} {selector lead rule outer : Focus}
  {between : List Focus}

/-! ### Rules and their selectors -/

/-- `selector` is an item of the selector list of `rule`. -/
structure IsItem (selector rule : Focus) : Prop where
  isRule : rule.kind = .ruleSet
  inList : ∃ list, list.kind = .selectors ∧ selector.parent? = some list ∧ list.parent? = some rule

theorem ownRule?_eq_some_iff : ownRule? selector = some rule ↔ IsItem selector rule := by
  obtain ⟨node, trail⟩ := selector
  constructor
  · intro h
    rcases trail with - | ⟨list, - | ⟨parent, trail⟩⟩
    · cases h
    · cases h
    · simp only [ownRule?] at h
      split_ifs at h with hkinds
      cases h
      exact ⟨hkinds.2, ⟨list.parent, parent :: trail⟩, hkinds.1, rfl, rfl⟩
  · rintro ⟨hrule, list, hlist, hselector, hparent⟩
    rcases trail with - | ⟨step, - | ⟨parent, trail⟩⟩
    · cases hselector
    · cases hselector
      cases hparent
    · cases hselector
      cases hparent
      exact if_pos ⟨hlist, hrule⟩

/-- The first selector of a rule is an item of its selector list. -/
theorem isItem_of_lead? (hrule : rule.kind = .ruleSet) (h : lead? rule = some lead) :
    IsItem lead rule := by
  obtain ⟨list, hlist, hlead⟩ := Option.bind_eq_some_iff.1 h
  have hkind : list.kind = .selectors := by simpa using List.find?_some hlist
  obtain ⟨i, hi⟩ := Focus.mem_children_iff.1 (List.mem_of_find?_eq_some hlist)
  obtain ⟨j, hj⟩ := Focus.mem_children_iff.1 (List.mem_of_find?_eq_some hlead)
  exact ⟨hrule, list, hkind, Focus.parent?_of_child? hj, Focus.parent?_of_child? hi⟩

/-! ### What ends the climb -/

/-- Whether a node is an `@at-root` rule: an at-rule whose keyword reads `at-root`
    behind its at signs, in any letter case. -/
def IsAtRoot (source : String) (rule : Tree) : Prop :=
  rule.kind = .statement .atRule ∧
    ∃ keyword, rule.children.find? (·.kind = .atKeyword) = some keyword ∧
      ∃ signs name, (keyword.text source).toList = signs ++ name ∧ (∀ c ∈ signs, c = '@') ∧
        Text.lower name = "at-root".toList

theorem isAtRoot_iff {rule : Tree} :
    IsAtRoot source rule ↔ rule.kind = .statement .atRule ∧ leavesNesting source rule := by
  rw [IsAtRoot, leavesNesting, Option.any_eq_true]
  refine and_congr_right fun _ => exists_congr fun keyword => and_congr_right fun _ => ?_
  rw [beq_iff_eq]
  constructor
  · rintro ⟨signs, name, htext, hsigns, hname⟩
    -- The name starts with a letter, so the at signs end where it starts.
    have hletter : name.dropWhile (· = '@') = name := by
      cases name with
      | nil => rfl
      | cons c name =>
        refine List.dropWhile_cons_of_neg fun hc => ?_
        rw [of_decide_eq_true hc] at hname
        cases hname
    rw [htext, List.dropWhile_append_of_pos fun c hc => decide_eq_true (hsigns c hc), hletter,
      hname]
  · intro h
    refine ⟨_, _, (List.takeWhile_append_dropWhile (p := (· = '@'))).symm, fun c hc => ?_, h⟩
    simpa using List.mem_takeWhile_imp hc

instance (source : String) (rule : Tree) : Decidable (IsAtRoot source rule) :=
  decidable_of_iff _ isAtRoot_iff.symm

/-- Whether the climb out of a rule ends at a node: the stylesheet, or an `@at-root`
    rule in SCSS. -/
def Ends (source : String) (dialect : Dialect) (f : Focus) : Prop :=
  f.kind = .stylesheet ∨ dialect = .scss ∧ IsAtRoot source f.node

instance (source : String) (dialect : Dialect) (f : Focus) : Decidable (Ends source dialect f) :=
  inferInstanceAs (Decidable (_ ∨ _))

theorem not_ends_of_ruleSet {f : Focus} (h : f.kind = .ruleSet) : ¬Ends source dialect f := by
  simp [Ends, IsAtRoot, h]

/-! ### What the climb passes -/

/-- The ancestors of a rule up to the first one that ends the climb. -/
def passed (source : String) (dialect : Dialect) (rule : Focus) : List Focus :=
  rule.ancestors.takeWhile fun f => ¬Ends source dialect f

/-- The first selector of a node that is a rule. -/
def leadOfRule? (f : Focus) : Option Focus := if f.kind = .ruleSet then lead? f else none

theorem leadOfRule?_of_ne {f : Focus} (h : f.kind ≠ .ruleSet) : leadOfRule? f = none := if_neg h

/-- The first selectors of the rules that the climb out of a rule passes, outermost
    first. -/
def leads (source : String) (dialect : Dialect) (rule : Focus) : List Focus :=
  ((passed source dialect rule).filterMap leadOfRule?).reverse

section

variable {node : Tree} {step : Step} {trail : List Step}

theorem leads_of_ends (h : Ends source dialect ⟨step.parent, trail⟩) :
    leads source dialect ⟨node, step :: trail⟩ = [] := by
  rw [leads, passed, Focus.ancestors, Focus.onTrail,
    List.takeWhile_cons_of_neg (by simpa using h)]
  rfl

/-- A node that does not end the climb adds its first selector, if it is a rule. -/
theorem leads_of_not_ends (h : ¬Ends source dialect ⟨step.parent, trail⟩) :
    leads source dialect ⟨node, step :: trail⟩ =
      leads source dialect ⟨step.parent, trail⟩ ++ (leadOfRule? ⟨step.parent, trail⟩).toList := by
  rw [leads, passed, Focus.ancestors, Focus.onTrail,
    List.takeWhile_cons_of_pos (by simpa using h), List.filterMap_cons]
  cases leadOfRule? ⟨step.parent, trail⟩ with
  | none => exact (List.append_nil _).symm
  | some lead => exact List.reverse_cons

end

theorem enclosing_eq (source : String) (dialect : Dialect) (node : Tree) (trail : List Step) :
    enclosing source dialect trail = leads source dialect ⟨node, trail⟩ := by
  induction trail generalizing node with
  | nil => rfl
  | cons step trail ih =>
    -- The cases are the kinds of nodes that matter on the way: the stylesheet, a rule, an
    -- at-rule, and any other node.
    rw [enclosing]
    split
    · rename_i hsheet
      rw [leads_of_ends (.inl hsheet)]
    · rename_i hrule
      rw [leads_of_not_ends (not_ends_of_ruleSet hrule), leadOfRule?, if_pos hrule, ← ih]
    · rename_i hstatement
      have hlead : leadOfRule? ⟨step.parent, trail⟩ = none :=
        leadOfRule?_of_ne (by simp [hstatement])
      split_ifs with hroot
      · rw [leads_of_ends (.inr ⟨hroot.1, isAtRoot_iff.2 ⟨hstatement, hroot.2⟩⟩)]
      · rw [leads_of_not_ends, hlead, Option.toList_none, List.append_nil, ← ih]
        rintro (hsheet | ⟨hscss, hat⟩)
        · exact absurd (hsheet.symm.trans hstatement) (by decide)
        · exact hroot ⟨hscss, (isAtRoot_iff.1 hat).2⟩
    · rename_i hsheet hrule hstatement
      rw [leads_of_not_ends, leadOfRule?_of_ne hrule, Option.toList_none, List.append_nil, ← ih]
      rintro (h | ⟨-, hat⟩)
      · exact hsheet h
      · exact hstatement hat.1

/-- The context of a selector is the first selectors of the rules that the climb out
    of its own rule passes. -/
theorem context_eq (h : IsItem selector rule) :
    context source dialect selector = leads source dialect rule := by
  rw [context, ownRule?_eq_some_iff.2 h]
  exact enclosing_eq source dialect rule.node rule.trail

/-- Without a rule on the climb there is no context. -/
theorem context_eq_nil (h : IsItem selector rule)
    (hnone : ∀ f ∈ passed source dialect rule, f.kind ≠ .ruleSet) :
    context source dialect selector = [] := by
  rw [context_eq h, leads, List.reverse_eq_nil_iff, List.filterMap_eq_nil_iff]
  exact fun f hf => leadOfRule?_of_ne (hnone f hf)

/-! ### From rule to rule -/

/-- `outer` is the rule next around `rule`: on the way up to it there are the nodes
    `between`, none of them a rule or the stylesheet. -/
structure IsAround (rule : Focus) (between : List Focus) (outer : Focus) : Prop where
  isRule : outer.kind = .ruleSet
  nearest : ∀ f ∈ between, f.kind ≠ .ruleSet ∧ f.kind ≠ .stylesheet
  onTheWay : ∃ above, rule.ancestors = between ++ outer :: above

/-- What the climb out of a rule passes goes on, from the rule around it, as what the
    climb out of that one passes. -/
theorem IsAround.passed_eq (h : IsAround rule between outer)
    (hroot : dialect = .scss → ∀ f ∈ between, ¬IsAtRoot source f.node) :
    passed source dialect rule = between ++ outer :: passed source dialect outer := by
  obtain ⟨houter, hbetween, above, habove⟩ := h
  have hpasses : ∀ f ∈ between, decide ¬Ends source dialect f := by
    intro f hf
    refine decide_eq_true ?_
    rintro (hsheet | ⟨hscss, hat⟩)
    · exact (hbetween f hf).2 hsheet
    · exact hroot hscss f hf hat
  have hpass : ¬Ends source dialect outer := not_ends_of_ruleSet houter
  rw [passed, habove, List.takeWhile_append_of_pos hpasses,
    List.takeWhile_cons_of_pos (by simpa using hpass), passed, Focus.ancestors_of_split habove]

/-- The context goes on from the rule around: it is the context of the first selector
    of that rule, and then this selector. -/
theorem IsAround.context_eq (h : IsAround rule between outer) (hitem : IsItem selector rule)
    (hroot : dialect = .scss → ∀ f ∈ between, ¬IsAtRoot source f.node)
    (hlead : lead? outer = some lead) :
    context source dialect selector = context source dialect lead ++ [lead] := by
  have hnone : between.filterMap leadOfRule? = [] :=
    List.filterMap_eq_nil_iff.2 fun f hf => leadOfRule?_of_ne (h.nearest f hf).1
  have hsome : leadOfRule? outer = some lead := by rw [leadOfRule?, if_pos h.isRule, hlead]
  rw [Nesting.context_eq hitem, Nesting.context_eq (isItem_of_lead? h.isRule hlead), leads,
    h.passed_eq hroot, List.filterMap_append, hnone, List.nil_append,
    List.filterMap_cons_some hsome, List.reverse_cons, leads]

/-- An `@at-root` rule on the way to the rule around starts the context anew. -/
theorem IsAround.context_eq_nil (h : IsAround rule between outer) (hitem : IsItem selector rule)
    (hroot : ∃ f ∈ between, IsAtRoot source f.node) :
    context source .scss selector = [] := by
  obtain ⟨root, hmem, hroot⟩ := hroot
  obtain ⟨-, hbetween, above, habove⟩ := h
  obtain ⟨before, after, rfl⟩ := List.append_of_mem hmem
  -- The climb ends at the `@at-root` rule, so it only passes nodes in front of it.
  have hends : Ends source .scss root := .inr ⟨rfl, hroot⟩
  have hpassed : passed source .scss rule <+: before := by
    rw [passed, habove, List.append_assoc, List.cons_append, List.takeWhile_append,
      List.takeWhile_cons_of_neg (by simpa using hends), List.append_nil]
    split_ifs
    · exact List.prefix_rfl
    · exact List.takeWhile_prefix _
  refine Nesting.context_eq_nil hitem fun f hf => (hbetween f ?_).1
  exact List.mem_append_left _ (hpassed.subset hf)

/-- The first rule that a climb passes is the rule around. -/
theorem exists_isAround {f : Focus} (hf : f ∈ passed source dialect rule)
    (hrule : f.kind = .ruleSet) : ∃ between outer, IsAround rule between outer := by
  have hsome : ((passed source dialect rule).find? (·.kind = .ruleSet)).isSome :=
    List.find?_isSome.2 ⟨f, hf, decide_eq_true hrule⟩
  obtain ⟨outer, houter⟩ := Option.isSome_iff_exists.1 hsome
  obtain ⟨hkind, between, above, hsplit, hbetween⟩ := List.find?_eq_some_iff_append.1 houter
  refine ⟨between, outer, of_decide_eq_true hkind, fun f hf => ⟨?_, fun hsheet => ?_⟩, ?_⟩
  · simpa using hbetween f hf
  · -- The climb would have ended at the stylesheet.
    have hpassed : f ∈ passed source dialect rule := hsplit ▸ List.mem_append_left _ hf
    have hpasses := List.mem_takeWhile_imp hpassed
    exact of_decide_eq_true hpasses (.inl hsheet)
  · obtain ⟨rest, hrest⟩ : passed source dialect rule <+: rule.ancestors := List.takeWhile_prefix _
    exact ⟨above ++ rest, by rw [← hrest, hsplit, List.append_assoc, List.cons_append]⟩

/-- Without a rule around, there is no context. -/
theorem context_eq_nil_of_top (hitem : IsItem selector rule)
    (htop : ∀ between outer, ¬IsAround rule between outer) :
    context source dialect selector = [] := by
  refine context_eq_nil hitem fun f hf hrule => ?_
  obtain ⟨between, outer, haround⟩ := exists_isAround hf hrule
  exact htop between outer haround

/-! ### Dialects -/

/-- Outside of SCSS, only the stylesheet ends the climb: every rule up to it counts. -/
theorem context_of_ne_scss (hitem : IsItem selector rule) (hdialect : dialect ≠ .scss) :
    context source dialect selector =
      (((rule.ancestors.takeWhile (·.kind ≠ .stylesheet)).filter
        (·.kind = .ruleSet)).filterMap lead?).reverse := by
  have hends : ∀ f, Ends source dialect f ↔ f.kind = .stylesheet := fun f =>
    or_iff_left fun h => hdialect h.1
  rw [context_eq hitem, leads, passed, List.filterMap_filter]
  simp only [hends, decide_eq_true_eq]
  rfl

/-- In SCSS only outer levels of a context can be missing. -/
theorem context_scss_suffix (source : String) (selector : Focus) :
    context source .scss selector <:+ context source .css selector := by
  cases hown : ownRule? selector with
  | none => simp [context, hown]
  | some rule =>
    have hitem := ownRule?_eq_some_iff.1 hown
    rw [context_eq hitem, context_eq hitem, leads, leads, List.reverse_suffix]
    refine List.IsPrefix.filterMap _ ?_
    -- What does not end the climb in SCSS does not end it in CSS.
    have hpassed : passed source .scss rule =
        (passed source .css rule).takeWhile fun f => ¬Ends source .scss f := by
      rw [passed, passed, List.takeWhile_takeWhile]
      congr 1
      funext f
      simp only [Ends, reduceCtorEq, false_and, or_false, true_and, decide_eq_true_eq,
        decide_eq_decide]
      tauto
    rw [hpassed]
    exact List.takeWhile_prefix _

/-! ### Reports -/

/-- The levels of a report are the weights of the context and of the selector. -/
theorem levels_ofSelector (source : String) (dialect : Dialect) (selector : Focus) :
    (Report.ofSelector source dialect selector).levels =
      ((context source dialect selector ++ [selector]).map fun f =>
        (Selector.read source f.node).specificity) := by
  simp [Report.ofSelector]

theorem total_ofSelector (source : String) (dialect : Dialect) (selector : Focus) :
    (Report.ofSelector source dialect selector).total =
      (Report.ofSelector source dialect selector).levels.sum :=
  Specificity.sum_eq _

/-- A report goes on from the report on the first selector of the rule around. -/
theorem IsAround.report_eq (h : IsAround rule between outer) (hitem : IsItem selector rule)
    (hroot : dialect = .scss → ∀ f ∈ between, ¬IsAtRoot source f.node)
    (hlead : lead? outer = some lead) :
    (Report.ofSelector source dialect selector).levels =
        (Report.ofSelector source dialect lead).levels ++
          [(Selector.read source selector.node).specificity] ∧
      (Report.ofSelector source dialect selector).total =
        (Report.ofSelector source dialect lead).total +
          (Report.ofSelector source dialect selector).own := by
  have hlevels : (Report.ofSelector source dialect selector).levels =
      (Report.ofSelector source dialect lead).levels ++
        [(Selector.read source selector.node).specificity] := by
    rw [levels_ofSelector, h.context_eq hitem hroot hlead, List.map_append, levels_ofSelector]
    rfl
  refine ⟨hlevels, ?_⟩
  rw [total_ofSelector, hlevels, List.sum_append, List.sum_singleton, ← total_ofSelector]
  rfl

/-- Nesting goes from rule to rule. The context of a selector is the context of the
    first selector of the rule next around, and then that selector; its report adds
    a level to the report on that selector. A context starts where there is no rule
    around and, in SCSS, where an `@at-root` rule stands in front of it; in the other
    dialects every rule up to the stylesheet counts, whatever else is on the way.
    So a context in SCSS is the end of the context in CSS. -/
theorem context_is_recursive (source : String) (dialect : Dialect) :
    (∀ selector rule, IsItem selector rule →
      (∀ between outer, IsAround rule between outer →
        (∀ lead, lead? outer = some lead →
          (dialect = .scss → ∀ f ∈ between, ¬IsAtRoot source f.node) →
          context source dialect selector = context source dialect lead ++ [lead] ∧
          (Report.ofSelector source dialect selector).levels =
            (Report.ofSelector source dialect lead).levels ++
              [(Selector.read source selector.node).specificity] ∧
          (Report.ofSelector source dialect selector).total =
            (Report.ofSelector source dialect lead).total +
              (Report.ofSelector source dialect selector).own) ∧
        (dialect = .scss → (∃ f ∈ between, IsAtRoot source f.node) →
          context source dialect selector = [])) ∧
      ((∀ between outer, ¬IsAround rule between outer) →
        context source dialect selector = []) ∧
      (dialect ≠ .scss →
        context source dialect selector =
          (((rule.ancestors.takeWhile (·.kind ≠ .stylesheet)).filter
            (·.kind = .ruleSet)).filterMap lead?).reverse)) ∧
    ∀ selector, context source .scss selector <:+ context source .css selector := by
  refine ⟨fun selector rule hitem => ⟨fun between outer haround => ⟨?_, ?_⟩, ?_, ?_⟩,
    context_scss_suffix source⟩
  · intro lead hlead hroot
    exact ⟨haround.context_eq hitem hroot hlead, haround.report_eq hitem hroot hlead⟩
  · rintro rfl hroot
    exact haround.context_eq_nil hitem hroot
  · exact context_eq_nil_of_top hitem
  · exact context_of_ne_scss hitem

/-- A rule in a rule in an `@at-root` rule in a rule. -/
def leavingRule : String := "a\x7b@At-Root\x7bb\x7bi\x7b\x7d\x7d\x7d\x7d"

/-- The tree of `leavingRule`. -/
def leavingRuleTree : Tree :=
  .node ⟨"stylesheet", true, 0, 19⟩
    [.node ⟨"rule_set", true, 0, 19⟩
      [.node ⟨"selectors", true, 0, 1⟩ [.node ⟨"tag_name", true, 0, 1⟩ []],
        .node ⟨"block", true, 1, 19⟩
          [.node ⟨"\x7b", false, 1, 2⟩ [],
            .node ⟨"at_rule", true, 2, 18⟩
              [.node ⟨"at_keyword", true, 2, 10⟩ [],
                .node ⟨"block", true, 10, 18⟩
                  [.node ⟨"\x7b", false, 10, 11⟩ [],
                    .node ⟨"rule_set", true, 11, 17⟩
                      [.node ⟨"selectors", true, 11, 12⟩ [.node ⟨"tag_name", true, 11, 12⟩ []],
                        .node ⟨"block", true, 12, 17⟩
                          [.node ⟨"\x7b", false, 12, 13⟩ [],
                            .node ⟨"rule_set", true, 13, 16⟩
                              [.node ⟨"selectors", true, 13, 14⟩
                                  [.node ⟨"tag_name", true, 13, 14⟩ []],
                                .node ⟨"block", true, 14, 16⟩
                                  [.node ⟨"\x7b", false, 14, 15⟩ [],
                                    .node ⟨"\x7d", false, 15, 16⟩ []]],
                            .node ⟨"\x7d", false, 16, 17⟩ []]],
                    .node ⟨"\x7d", false, 17, 18⟩ []]],
            .node ⟨"\x7d", false, 18, 19⟩ []]]]

/-- The node of `leavingRuleTree` at the end of a path. -/
def leavingRuleNode (path : List Nat) : Focus :=
  ((Focus.root leavingRuleTree).descend? path).getD (.root leavingRuleTree)

/-- The rule in the rule in the `@at-root` rule: its context starts at the `@at-root`
    rule in SCSS, and at the outermost rule in CSS. -/
theorem context_is_recursive_leavingRule :
    IsItem (leavingRuleNode [0, 1, 1, 1, 1, 1, 1, 0, 0]) (leavingRuleNode [0, 1, 1, 1, 1, 1, 1]) ∧
      context leavingRule .scss (leavingRuleNode [0, 1, 1, 1, 1, 1, 1, 0, 0]) =
        [leavingRuleNode [0, 1, 1, 1, 1, 0, 0]] ∧
      context leavingRule .css (leavingRuleNode [0, 1, 1, 1, 1, 1, 1, 0, 0]) =
        [leavingRuleNode [0, 0, 0], leavingRuleNode [0, 1, 1, 1, 1, 0, 0]] := by
  have hinner : IsItem (leavingRuleNode [0, 1, 1, 1, 1, 1, 1, 0, 0])
      (leavingRuleNode [0, 1, 1, 1, 1, 1, 1]) :=
    ⟨rfl, leavingRuleNode [0, 1, 1, 1, 1, 1, 1, 0], rfl, rfl, rfl⟩
  have hmiddle : IsItem (leavingRuleNode [0, 1, 1, 1, 1, 0, 0])
      (leavingRuleNode [0, 1, 1, 1, 1]) :=
    ⟨rfl, leavingRuleNode [0, 1, 1, 1, 1, 0], rfl, rfl, rfl⟩
  -- The inner rule stands in the block of the middle one, and the middle rule in the block
  -- of the `@at-root` rule, which stands in the block of the outer one.
  have hinnerAround : IsAround (leavingRuleNode [0, 1, 1, 1, 1, 1, 1])
      [leavingRuleNode [0, 1, 1, 1, 1, 1]] (leavingRuleNode [0, 1, 1, 1, 1]) :=
    ⟨rfl, by decide, _, rfl⟩
  have hmiddleAround : IsAround (leavingRuleNode [0, 1, 1, 1, 1])
      [leavingRuleNode [0, 1, 1, 1], leavingRuleNode [0, 1, 1], leavingRuleNode [0, 1]]
      (leavingRuleNode [0]) :=
    ⟨rfl, by decide, _, rfl⟩
  have hlead : lead? (leavingRuleNode [0, 1, 1, 1, 1]) =
      some (leavingRuleNode [0, 1, 1, 1, 1, 0, 0]) := rfl
  obtain ⟨hscss, -⟩ := context_is_recursive leavingRule .scss
  obtain ⟨hcss, -⟩ := context_is_recursive leavingRule .css
  have hstart : context leavingRule .scss (leavingRuleNode [0, 1, 1, 1, 1, 0, 0]) = [] :=
    ((hscss _ _ hmiddle).1 _ _ hmiddleAround).2 rfl
      ⟨leavingRuleNode [0, 1, 1], by simp, by decide⟩
  refine ⟨hinner, ?_, ?_⟩
  · rw [(((hscss _ _ hinner).1 _ _ hinnerAround).1 _ hlead fun _ => by decide).1, hstart,
      List.nil_append]
  · rw [(hcss _ _ hinner).2.2 (by decide)]
    rfl

end Nesting

end StyleLens
