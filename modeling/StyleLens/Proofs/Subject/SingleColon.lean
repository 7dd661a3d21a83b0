import StyleLens.Proofs.Selector.Exactness
import StyleLens.Subject

/-!
# Pseudo-elements of old

Four pseudo-elements may be written with a single colon, like pseudo-classes. What is
written so is told to be one of them twice: by the subject of the node, and by the weight
of the simple selector that the node adds. Both go by the name in small letters, but only
the weight sees through the mark of a vendor (`PseudoRule.ofName_eq_asType_iff`).

So a node without arguments is told alike exactly if its name is not one of the four with
such a mark (`Subject.single_colon_told_alike_iff`). With one, as in `:-webkit-before`, the
subject is a pseudo-class that weighs as a pseudo-element.
-/

namespace StyleLens

/-- A name that a token introduces stands behind a token. -/
theorem Tree.isSome_find?_of_afterToken? {token : String} {ts : List Tree} {name : Tree}
    (h : afterToken? token ts = some name) : (ts.find? (·.isToken token)).isSome := by
  fun_induction afterToken? token ts with
  | case1 mark next rest hmark => simp [hmark]
  | case2 mark next rest hmark => cases h
  | case3 mark next rest hmark ih =>
    rw [List.find?_cons, Bool.eq_false_iff.2 hmark]
    exact ih h
  | case4 => cases h

/-! ### Names -/

/-- Of names that have no mark, a name is told alike with and without regard to marks exactly
    if it is not one of them with a mark. -/
theorem mem_iff_named_iff {names : List String}
    (hnames : ∀ base ∈ names, unmarked? base.toList = none) (name : String) :
    (name ∈ names ↔ Named names name) ↔
      ¬∃ mark ∈ vendorMarks, ∃ base ∈ names, name = mark ++ base := by
  constructor
  · rintro h ⟨mark, hmark, base, hbase, rfl⟩
    -- A name with a mark would be one of those that have none.
    have hnone := hnames _ (h.2 ⟨base, hbase, .inr ⟨mark, hmark, rfl⟩⟩)
    rw [String.toList_append, unmarked?_append hmark] at hnone
    cases hnone
  · intro h
    refine ⟨fun hmem => ⟨name, hmem, .inl rfl⟩, ?_⟩
    rintro ⟨base, hbase, rfl | ⟨mark, hmark, rfl⟩⟩
    · exact hbase
    · exact absurd ⟨mark, hmark, base, hbase, rfl⟩ h

namespace PseudoRule

/-- Without arguments, only what weighs as a type by its rule does so. -/
theorem weight_nil_eq_oneType_iff (rule : PseudoRule) :
    rule.weight [] = .oneType ↔ rule = asType := by
  cases rule <;> decide

/-- The pseudo-classes that weigh as a type are the pseudo-elements of old, with or without
    the mark of a vendor. -/
theorem ofName_eq_asType_iff (name : String) :
    ofName name = asType ↔ Named singleColonElements name := by
  rw [named_iff (by decide), ofName_eq]
  generalize unmarked name = base
  constructor
  · intro h
    split_ifs at h with _ _ _ hbase
    exact hbase
  · intro h
    simp only [singleColonElements, List.mem_cons, List.not_mem_nil, or_false] at h
    rcases h with rfl | rfl | rfl | rfl <;> rfl

end PseudoRule

variable {name : Tree}

/-- The simple selector that a pseudo-class selector with a name adds. -/
theorem Simple.read?_of_pseudoClass (source : String) {t : Tree}
    (hkind : t.kind = .selector .pseudoClass)
    (hname : t.nameAfter? pseudoClassMark = some name) (arguments : List Selector) :
    ∃ text, read? source t arguments = some
      (.pseudoClass (String.ofList (Text.lower (name.text source).toList)) text arguments) := by
  obtain ⟨marker, hmarker⟩ := Option.isSome_iff_exists.1 (Tree.isSome_find?_of_afterToken? hname)
  refine ⟨(Text.slice? source marker.start t.stop).getD "", ?_⟩
  rw [read?, hkind]
  simp [readPseudo?, hmarker, hname]

namespace Subject

/-- The subject of a pseudo-class selector with a name. -/
theorem ofFocus_of_pseudoClass (source : String) {f : Focus}
    (hkind : f.kind = .selector .pseudoClass)
    (hname : f.node.nameAfter? pseudoClassMark = some name) :
    ofFocus source f =
      if String.ofList (Text.lower (name.text source).toList) ∈ singleColonElements then
        pseudoElement f
      else pseudoClass f := by
  rw [ofFocus, ofNode.eq_def]
  simp only [hkind, ofPseudoClass, namesElement, hname, Option.any_some, decide_eq_true_eq]

/-- Where a name with a single colon and without arguments is that of a pseudo-element of old,
    the subject is a pseudo-element, and where it is one with or without the mark of a vendor,
    the weight is that of a type. So the two agree exactly if the name is not one of the four
    with a mark. -/
theorem single_colon_told_alike_iff (source : String) {f : Focus} {name : Tree}
    (hkind : f.kind = .selector .pseudoClass)
    (hname : f.node.nameAfter? pseudoClassMark = some name)
    (hplain : Selector.readArguments source f.node.children = []) :
    let small := String.ofList (Text.lower (name.text source).toList)
    ∃ s, Simple.read? source f.node (Selector.readArguments source f.node.children) = some s ∧
      (ofFocus source f =
        if small ∈ singleColonElements then pseudoElement f else pseudoClass f) ∧
      (s.specificity = .oneType ↔ Named singleColonElements small) ∧
      (((∃ item, ofFocus source f = pseudoElement item) ↔ s.specificity = .oneType) ↔
        ¬∃ mark ∈ vendorMarks, ∃ base ∈ singleColonElements, small = mark ++ base) := by
  intro small
  obtain ⟨text, hread⟩ := Simple.read?_of_pseudoClass source hkind hname []
  have hsubject : ofFocus source f =
      if small ∈ singleColonElements then pseudoElement f else pseudoClass f :=
    ofFocus_of_pseudoClass source hkind hname
  have helement : (∃ item, ofFocus source f = pseudoElement item) ↔
      small ∈ singleColonElements := by
    rw [hsubject]
    split_ifs with hmem <;> simp [hmem]
  have hweight : (Simple.pseudoClass small text []).specificity = .oneType ↔
      Named singleColonElements small := by
    rw [← PseudoRule.ofName_eq_asType_iff, ← PseudoRule.weight_nil_eq_oneType_iff]
    simp only [Simple.specificity, Selector.weights]
  refine ⟨_, by rw [hplain]; exact hread, hsubject, hweight, ?_⟩
  rw [helement, hweight]
  exact mem_iff_named_iff (by decide) small

/-- A pseudo-class selector that is the whole of a text: a colon and the name up to `stop`. -/
def singleColon (stop : Nat) : Focus :=
  .root (.node ⟨"pseudo_class_selector", true, 0, stop⟩
    [.node ⟨":", false, 0, 1⟩ [],
      .node ⟨"class_name", true, 1, stop⟩ [.node ⟨"identifier", true, 1, stop⟩ []]])

/-- `:BEFORE` is told alike, and `:-webkit-before` is not. -/
theorem single_colon_told_alike_iff_before :
    (∃ s, Simple.read? ":BEFORE" (singleColon 7).node [] = some s ∧ s.specificity = .oneType ∧
      ofFocus ":BEFORE" (singleColon 7) = pseudoElement (singleColon 7)) ∧
    ∃ s, Simple.read? ":-webkit-before" (singleColon 15).node [] = some s ∧
      ¬((∃ item, ofFocus ":-webkit-before" (singleColon 15) = pseudoElement item) ↔
        s.specificity = .oneType) := by
  obtain ⟨s, hs, hsubject, hweight, -⟩ := single_colon_told_alike_iff ":BEFORE"
    (f := singleColon 7) (by decide) rfl rfl
  obtain ⟨s', hs', -, -, halike⟩ := single_colon_told_alike_iff ":-webkit-before"
    (f := singleColon 15) (by decide) rfl rfl
  refine ⟨⟨s, hs, hweight.2 (by decide), hsubject.trans (if_pos (by decide))⟩, s', hs', ?_⟩
  rw [halike, not_not]
  exact ⟨"-webkit-", by decide, "before", by decide, by decide⟩

/-- `:-webkit-before` is a pseudo-class that weighs as a pseudo-element. -/
theorem marked_pseudo_class_weighs_as_element :
    (singleColon 15).kind = .selector .pseudoClass ∧
      Selector.readArguments ":-webkit-before" (singleColon 15).node.children = [] ∧
      ofFocus ":-webkit-before" (singleColon 15) = pseudoClass (singleColon 15) ∧
      Simple.read? ":-webkit-before" (singleColon 15).node [] =
        some (.pseudoClass "-webkit-before" ":-webkit-before" []) ∧
      (Simple.pseudoClass "-webkit-before" ":-webkit-before" []).specificity = ⟨0, 0, 1⟩ :=
  ⟨by decide, rfl, rfl, rfl, by decide⟩

end Subject

end StyleLens
