import StyleLens.Proofs.Subject

/-!
# Selectors that error recovery left loose

Where a rule is not finished, its declarations can be read as selectors: in `a { b: c`
the end reads as the pseudo-class `c` on the type `b`. Such a selector stands directly
in what error recovery could not read, in no selector list (`Subject.Loose`), and the
climb to an item of a list finds none (`Subject.Loose.ofSelector_eq`).

The climb is not on the way from the name and the mark of a pseudo selector, nor from
the pseudo selector itself. These have it as their subject whether it is loose or not
(`Subject.ofFocus_of_tellsPseudo`), and of the parts of a loose selector just these are
documented (`Subject.loose_is_unsupported_iff`).
-/

namespace StyleLens

theorem Kind.isPseudo_iff {k : Kind} :
    k.isPseudo ↔ k = .selector .pseudoClass ∨ k = .selector .pseudoElement := by
  constructor
  · intro h
    rw [isPseudo.eq_def] at h
    split at h
    · exact .inl rfl
    · exact .inr rfl
    · cases h
  · rintro (rfl | rfl) <;> rfl

namespace Subject

variable {source : String} {f n p q : Focus} {subject : Subject}

/-! ### Loose selectors -/

theorem Loose.ofSelector_eq (h : Loose f) : ofSelector f = unsupported f := by
  rw [ofSelector, outermost?_eq_none_iff.2 h]

/-- What can hold a part of a selector is neither a fragment nor punctuation. -/
theorem origin_of_holds (h : holdsSelector q) : origin q = q := by
  refine origin_of_ne (fun hkind => ?_) (fun hkind => ?_) <;>
    simp [holdsSelector, argumentsOfPseudo, hkind, Kind.isSelector] at h

/-- Where a loose node leaves its subject to another one, that one is loose. -/
theorem Loose.origin (h : Loose n) : Loose (origin n) := by
  obtain ⟨outermost, e, hclimbs, hparent, herror⟩ := id h
  rcases hclimbs.cases_head with rfl | ⟨q, ⟨hq, hholds⟩, hrest⟩
  · rwa [origin_of_error hparent herror]
  · have hloose : Loose q := ⟨outermost, e, hrest, hparent, herror⟩
    have hne : q.kind ≠ .error := fun he => not_holdsSelector_of_error he hholds
    by_cases hidentifier : n.kind = .identifier
    · rwa [origin_of_identifier hidentifier hq hne, origin_of_holds hholds]
    · by_cases hpunctuation : n.kind = .punctuation
      · rwa [origin_of_punctuation hpunctuation hq hne]
      · rwa [origin_of_ne hidentifier hpunctuation]

/-! ### Pseudo selectors -/

/-- What tells of a pseudo selector is about it. -/
theorem ofFocus_of_tellsPseudo (h : TellsPseudo n p) : ofFocus source n = ofPseudo source p := by
  induction h with
  | itself hkind =>
    rw [ofFocus, ofNode.eq_def]
    rcases Kind.isPseudo_iff.1 hkind with hclass | helement
    · simp only [hclass, ofPseudo_of_class]
    · simp only [helement, ofPseudo_of_element]
  | classMark hkind hparent hpseudo hmark =>
    rw [ofFocus, ofNode.eq_def, ofPseudo_of_class hpseudo]
    simp only [hkind, ofPunctuation, hparent, hpseudo, hmark, if_true]
  | elementMark hkind hparent hpseudo hmark =>
    rw [ofFocus, ofNode.eq_def, ofPseudo_of_element hpseudo]
    simp only [hkind, ofPunctuation, hparent, hpseudo, hmark, if_true]
  | className hkind hparent hpseudo hmark =>
    rw [ofFocus, ofNode.eq_def, ofPseudo_of_class hpseudo]
    simp only [hkind, hparent, hpseudo, hmark, and_self, if_true]
  | elementName hkind hparent hpseudo hmark =>
    rw [ofFocus, ofNode.eq_def, ofPseudo_of_element hpseudo]
    simp only [hkind, hparent, hpseudo, hmark, and_self, if_true]
  | @fragment n q p hkind hparent herror _ ih =>
    obtain ⟨node, - | ⟨step, trail⟩⟩ := n
    · cases hparent
    · cases hparent
      rw [← ih, ofFocus, ofNode.eq_def]
      simp only [hkind, if_neg herror]
      rfl

/-- The pseudo selector that a subject is. -/
def pseudo? : Subject → Option Focus
  | pseudoClass item | pseudoElement item => some item
  | _ => none

@[simp]
theorem pseudo?_ofPseudo (source : String) (p : Focus) : (ofPseudo source p).pseudo? = some p := by
  rw [ofPseudo, ofPseudoClass]
  split_ifs <;> rfl

/-- No rule leads to a pseudo selector. -/
theorem Rule.pseudo?_eq_none (h : Rule f subject) : subject.pseudo? = none := by
  cases h with
  | value =>
    rw [ofValue]
    split <;> rfl
  | selector =>
    rw [ofSelector]
    split <;> rfl
  | declaration | propertyName | keyword | keywordToken => rfl

theorem Verdict.tellsPseudo (h : Verdict source n subject) (hp : subject.pseudo? = some p) :
    TellsPseudo n p := by
  cases h with
  | rule h => rw [h.pseudo?_eq_none] at hp; cases hp
  | pseudo h =>
    rw [pseudo?_ofPseudo] at hp
    cases hp
    exact h
  | unsupported => cases hp

/-- A node is about a pseudo selector exactly if it tells of it, loose or not. -/
theorem pseudo?_ofFocus_eq_some_iff (source : String) (n p : Focus) :
    (ofFocus source n).pseudo? = some p ↔ TellsPseudo n p := by
  refine ⟨(verdict_ofFocus source n).tellsPseudo, fun h => ?_⟩
  rw [ofFocus_of_tellsPseudo h, pseudo?_ofPseudo]

/-! ### Parts of loose selectors -/

/-- At a part of a selector, there is only the climb to the item of the list. -/
theorem Rule.eq_ofSelector (h : Rule f subject) (hpart : IsPart f) : subject = ofSelector f := by
  cases h with
  | value hvalue => exact absurd hpart hvalue
  | selector => rfl
  | declaration hkind | propertyName hkind | keyword hkind | keywordToken hkind =>
    simp [IsPart, holdsSelector, argumentsOfPseudo, hkind, Kind.isSelector] at hpart

/-- No rule leads from a loose node to an item of a selector list. -/
theorem Rule.ne_selector (h : Rule f subject) (hloose : Loose f) (item : Focus) :
    subject ≠ .selector item := by
  cases h with
  | value =>
    rw [ofValue]
    split <;> simp
  | selector =>
    rw [hloose.ofSelector_eq]
    simp
  | declaration | propertyName | keyword | keywordToken => simp

theorem Verdict.ne_selector (h : Verdict source n subject) (hloose : Loose (Subject.origin n))
    (item : Focus) : subject ≠ .selector item := by
  cases h with
  | rule h => exact h.ne_selector hloose item
  | @pseudo p =>
    intro he
    have hp := pseudo?_ofPseudo source p
    rw [he] at hp
    cases hp
  | unsupported => simp

/-- A loose part of a selector that tells of no pseudo selector is about nothing. -/
theorem Verdict.exists_unsupported (h : Verdict source n subject)
    (hloose : Loose (Subject.origin n)) (hpart : IsPart (Subject.origin n))
    (hnone : ∀ p, ¬TellsPseudo n p) : ∃ m, subject = .unsupported m := by
  cases h with
  | rule h => exact ⟨_, (h.eq_ofSelector hpart).trans hloose.ofSelector_eq⟩
  | pseudo h => exact absurd h (hnone _)
  | @unsupported m => exact ⟨m, rfl⟩

/-- A node of a selector that error recovery left loose is never about an item of a selector
    list. It is about a pseudo selector exactly if it tells of it, and about nothing
    exactly if it tells of none: the pseudo selector itself, its mark and its name are
    documented, and no other part. -/
theorem loose_is_unsupported_iff (source : String) {n : Focus}
    (hloose : Loose n ∨ Loose (origin n)) :
    (∀ item, ofFocus source n ≠ selector item) ∧
    (∀ p, (ofFocus source n).pseudo? = some p ↔ TellsPseudo n p) ∧
    (IsPart (origin n) →
      ((∃ m, ofFocus source n = unsupported m) ↔ ∀ p, ¬TellsPseudo n p)) := by
  have horigin : Loose (origin n) := hloose.elim Loose.origin id
  have hverdict := verdict_ofFocus source n
  refine ⟨hverdict.ne_selector horigin, pseudo?_ofFocus_eq_some_iff source n,
    fun hpart => ⟨?_, hverdict.exists_unsupported horigin hpart⟩⟩
  rintro ⟨m, hm⟩ p htells
  have hp := (pseudo?_ofFocus_eq_some_iff source n p).2 htells
  rw [hm] at hp
  cases hp

/-- A rule that is not finished. -/
def unfinishedRule : String := ".a \x7b color: red"

/-- The tree of `unfinishedRule`, in which the declaration reads as a pseudo-class. -/
def unfinishedRuleTree : Tree :=
  .node ⟨"stylesheet", true, 0, 15⟩
    [.node ⟨"ERROR", true, 0, 15⟩
      [.node ⟨"selectors", true, 0, 2⟩
          [.node ⟨"class_selector", true, 0, 2⟩
            [.node ⟨".", false, 0, 1⟩ [],
              .node ⟨"class_name", true, 1, 2⟩ [.node ⟨"identifier", true, 1, 2⟩ []]]],
        .node ⟨"\x7b", false, 3, 4⟩ [],
        .node ⟨"pseudo_class_selector", true, 5, 15⟩
          [.node ⟨"tag_name", true, 5, 10⟩ [], .node ⟨":", false, 10, 11⟩ [],
            .node ⟨"class_name", true, 12, 15⟩ [.node ⟨"identifier", true, 12, 15⟩ []]]]]

/-- The node of `unfinishedRuleTree` at the end of a path. -/
def unfinishedRuleNode (path : List Nat) : Focus :=
  ((Focus.root unfinishedRuleTree).descend? path).getD (.root unfinishedRuleTree)

/-- Of the declaration that is not finished, the name in front of the colon is about
    nothing. -/
theorem loose_is_unsupported_iff_unfinishedRule :
    Loose (unfinishedRuleNode [0, 2, 0]) ∧ IsPart (origin (unfinishedRuleNode [0, 2, 0])) ∧
      ∃ m, ofFocus unfinishedRule (unfinishedRuleNode [0, 2, 0]) = unsupported m := by
  have hloose : Loose (unfinishedRuleNode [0, 2, 0]) :=
    ⟨unfinishedRuleNode [0, 2], unfinishedRuleNode [0], .single ⟨rfl, by decide⟩, rfl, by decide⟩
  have hpart : IsPart (origin (unfinishedRuleNode [0, 2, 0])) := by decide
  have hnone : ∀ p, ¬TellsPseudo (unfinishedRuleNode [0, 2, 0]) p := by
    intro p h
    cases h with
    | itself hkind => exact absurd hkind (by decide)
    | classMark hkind | elementMark hkind | className hkind | fragment hkind =>
      exact absurd hkind (by decide)
    | elementName _ hparent hpseudo =>
      cases hparent
      exact absurd hpseudo (by decide)
  exact ⟨hloose, hpart, ((loose_is_unsupported_iff unfinishedRule (.inl hloose)).2.2 hpart).2 hnone⟩

/-- The colon of the declaration and the value behind it are taken for a pseudo-class. -/
theorem loose_value_is_pseudo_class :
    Loose (unfinishedRuleNode [0, 2, 1]) ∧ Loose (unfinishedRuleNode [0, 2, 2]) ∧
      ofFocus unfinishedRule (unfinishedRuleNode [0, 2, 1]) =
        pseudoClass (unfinishedRuleNode [0, 2]) ∧
      ofFocus unfinishedRule (unfinishedRuleNode [0, 2, 2]) =
        pseudoClass (unfinishedRuleNode [0, 2]) := by
  have hparent : holdsSelector (unfinishedRuleNode [0, 2]) := by decide
  have herror : (unfinishedRuleNode [0]).kind = .error := by decide
  exact ⟨⟨unfinishedRuleNode [0, 2], _, .single ⟨rfl, hparent⟩, rfl, herror⟩,
    ⟨unfinishedRuleNode [0, 2], _, .single ⟨rfl, hparent⟩, rfl, herror⟩, rfl, rfl⟩

end Subject

end StyleLens
