import StyleLens.Proofs.Tree.Nested
import StyleLens.Subject

/-!
# A subject stands around its node

Classification only ever climbs, and it does so in two parts. From a fragment of a
name, or from punctuation, it first goes to the node that these belong to
(`Subject.origin`). There it decides by a few rules (`Subject.Rule`), some of which
climb on, to a declaration or to the outermost selector. Only the name and the mark of
a pseudo selector have a way of their own, straight to it (`Subject.TellsPseudo`).

This is all that classification can do (`Subject.verdict_ofFocus`), and it says what
a subject can be:

* `Subject.climbs_ofFocus`: whatever a node is about is the node itself or one of its
  ancestors;
* `Subject.Verdict.fits`: it is a construct of its kind.

The two climbs are said without the way they take: one leads to the declaration that a
term is written in (`Subject.WrittenIn`), the other to the outermost selector, and to
none where a selector is loose (`Subject.Loose`).
-/

namespace StyleLens

/-- No tag of a named node stands for a keyword token. -/
theorem Kind.ofTag_ne_keywordToken (tag : String) : ofTag tag ≠ .keywordToken := by
  rw [ofTag]
  cases h : tags.lookup tag with
  | none => exact nofun
  | some k =>
    have hall : ∀ e ∈ tags, e.2 ≠ .keywordToken := by decide
    obtain ⟨before, after, htags, -⟩ := List.lookup_eq_some_iff.1 h
    exact hall (tag, k) (htags ▸ List.mem_append_right _ List.mem_cons_self)

/-- A keyword token is an anonymous node that starts with an at sign. -/
theorem Label.token_of_keywordToken {l : Label} (h : l.kind = .keywordToken) :
    l.named = false ∧ l.tag.toList.head? = some '@' := by
  rw [kind] at h
  split_ifs at h with hnamed
  · exact absurd h (Kind.ofTag_ne_keywordToken l.tag)
  · rw [Kind.ofToken] at h
    split_ifs at h with hat
    exact ⟨by simpa using fun hn => hnamed (.inl hn), hat⟩

namespace Subject

variable {source : String} {f g n o p q : Focus}

/-! ### Climbs -/

/-- Whether a node stands loose: the outermost node that it climbs to, by nodes that can
    hold a part of a selector, is a child of what error recovery could not read. -/
def Loose (f : Focus) : Prop :=
  ∃ outermost e, f.ClimbsBy (holdsSelector ·) outermost ∧ outermost.parent? = some e ∧
    e.kind = .error

theorem not_holdsSelector_of_error (h : q.kind = .error) : ¬holdsSelector q := by
  simp [holdsSelector, argumentsOfPseudo, h, Kind.isSelector]

theorem outermost?_of_holds (hparent : f.parent? = some q) (hholds : holdsSelector q) :
    outermost? f.node f.trail = outermost? q.node q.trail := by
  obtain ⟨node, - | ⟨step, trail⟩⟩ := f
  · cases hparent
  · cases hparent
    exact if_pos hholds

theorem outermost?_of_error (hparent : f.parent? = some q) (herror : q.kind = .error) :
    outermost? f.node f.trail = none := by
  obtain ⟨node, - | ⟨step, trail⟩⟩ := f
  · cases hparent
  · cases hparent
    exact (if_neg (not_holdsSelector_of_error herror)).trans (if_pos herror)

/-- The climb from a part of a selector ends at the outermost node that can hold one, and
    it goes no further for lack of a parent that can. -/
theorem climbsBy_outermost? (h : outermost? f.node f.trail = some o) :
    f.ClimbsBy (holdsSelector ·) o ∧
      ∀ p, o.parent? = some p → ¬holdsSelector p ∧ p.kind ≠ .error := by
  obtain ⟨node, trail⟩ := f
  induction trail generalizing node with
  | nil =>
    cases h
    exact ⟨.refl, nofun⟩
  | cons step trail ih =>
    rw [outermost?] at h
    split_ifs at h with hholds herror
    · obtain ⟨hclimbs, hend⟩ := ih step.parent h
      exact ⟨.head ⟨rfl, hholds⟩ hclimbs, hend⟩
    · cases h
      refine ⟨.refl, fun p hp => ?_⟩
      cases hp
      exact ⟨hholds, herror⟩

/-- The climb from a part of a selector finds nothing exactly if the part is loose. -/
theorem outermost?_eq_none_iff : outermost? f.node f.trail = none ↔ Loose f := by
  constructor
  · intro h
    obtain ⟨node, trail⟩ := f
    induction trail generalizing node with
    | nil => cases h
    | cons step trail ih =>
      rw [outermost?] at h
      split_ifs at h with hholds herror
      · obtain ⟨outermost, e, hclimbs, hparent⟩ := ih step.parent h
        exact ⟨outermost, e, .head ⟨rfl, hholds⟩ hclimbs, hparent⟩
      · exact ⟨_, _, .refl, rfl, herror⟩
  · rintro ⟨outermost, e, hclimbs, hparent, herror⟩
    induction hclimbs using Relation.ReflTransGen.head_induction_on with
    | refl => exact outermost?_of_error hparent herror
    | head hstep _ ih => rw [outermost?_of_holds hstep.1 hstep.2, ih]

/-- Whether a node can be passed on the way up from a term of a value. -/
def Passable (f : Focus) : Prop :=
  f.kind ≠ .declaration ∧ f.kind ≠ .block ∧ f.kind ≠ .ruleSet ∧ f.kind ≠ .stylesheet

/-- `d` is the declaration that `f` is written in: the nearest one around `f`, with no
    block, rule or stylesheet in between. -/
def WrittenIn (f d : Focus) : Prop :=
  d.kind = .declaration ∧ ∃ below, f.ClimbsBy Passable below ∧ below.parent? = some d

theorem WrittenIn.climbs (h : WrittenIn f o) : f.Climbs o := by
  obtain ⟨-, below, hclimbs, hparent⟩ := h
  exact hclimbs.climbs.tail hparent

theorem declaration?_of_declaration (hparent : f.parent? = some o)
    (hkind : o.kind = .declaration) : declaration? f.trail = some o := by
  obtain ⟨node, - | ⟨step, trail⟩⟩ := f
  · cases hparent
  · cases hparent
    simp only [declaration?, hkind]

theorem declaration?_of_passable (hparent : f.parent? = some q) (hpass : Passable q) :
    declaration? f.trail = declaration? q.trail := by
  obtain ⟨node, - | ⟨step, trail⟩⟩ := f
  · cases hparent
  · cases hparent
    obtain ⟨hdeclaration, hblock, hrule, hsheet⟩ := hpass
    rw [declaration?]
    split
    · exact absurd ‹_› hdeclaration
    · exact absurd ‹_› hblock
    · exact absurd ‹_› hrule
    · exact absurd ‹_› hsheet
    · rfl

/-- The climb from a term of a value finds the declaration that the term is written in. -/
theorem declaration?_eq_some_iff : declaration? f.trail = some o ↔ WrittenIn f o := by
  constructor
  · intro h
    obtain ⟨node, trail⟩ := f
    induction trail generalizing node with
    | nil => cases h
    | cons step trail ih =>
      rw [declaration?] at h
      split at h
      · rename_i hkind
        cases h
        exact ⟨hkind, _, .refl, rfl⟩
      · cases h
      · cases h
      · cases h
      · rename_i hdeclaration hblock hrule hsheet
        obtain ⟨hkind, below, hclimbs, hparent⟩ := ih step.parent h
        exact ⟨hkind, below, .head ⟨rfl, hdeclaration, hblock, hrule, hsheet⟩ hclimbs, hparent⟩
  · rintro ⟨hkind, below, hclimbs, hparent⟩
    induction hclimbs using Relation.ReflTransGen.head_induction_on with
    | refl => exact declaration?_of_declaration hparent hkind
    | head hstep _ ih => rw [declaration?_of_passable hstep.1 hstep.2, ih]

/-! ### Where a climb starts -/

/-- The node at which the subject of a node with a trail above it is decided. -/
def originOf (node : Tree) : List Step → Focus
  | [] => ⟨node, []⟩
  | step :: trail =>
    if step.parent.kind = .error then ⟨node, step :: trail⟩
    else if node.kind = .identifier then originOf step.parent trail
    else if node.kind = .punctuation then ⟨step.parent, trail⟩
    else ⟨node, step :: trail⟩

/-- The node at which the subject of a node is decided, and from which a climb starts. A
    fragment of a name leaves it to the node around it, and punctuation to its parent,
    unless error recovery left them loose. -/
def origin (f : Focus) : Focus := originOf f.node f.trail

theorem climbs_origin (f : Focus) : f.Climbs (origin f) := by
  obtain ⟨node, trail⟩ := f
  rw [origin]
  induction trail generalizing node with
  | nil => exact .refl
  | cons step trail ih =>
    rw [originOf]
    split_ifs
    · exact .refl
    · exact .head rfl (ih step.parent)
    · exact .single rfl
    · exact .refl

theorem origin_of_ne (hidentifier : f.kind ≠ .identifier) (hpunctuation : f.kind ≠ .punctuation) :
    origin f = f := by
  obtain ⟨node, - | ⟨step, trail⟩⟩ := f
  · rfl
  · change originOf node (step :: trail) = _
    rw [originOf, if_neg hidentifier, if_neg hpunctuation, ite_self]

theorem origin_of_kind {k : Kind} (hkind : f.kind = k) (hidentifier : k ≠ .identifier := by simp)
    (hpunctuation : k ≠ .punctuation := by simp) : origin f = f :=
  origin_of_ne (hkind ▸ hidentifier) (hkind ▸ hpunctuation)

theorem origin_of_root (hparent : f.parent? = none) : origin f = f := by
  obtain ⟨node, - | ⟨step, trail⟩⟩ := f
  · rfl
  · cases hparent

theorem origin_of_error (hparent : f.parent? = some q) (herror : q.kind = .error) :
    origin f = f := by
  obtain ⟨node, - | ⟨step, trail⟩⟩ := f
  · cases hparent
  · cases hparent
    exact if_pos herror

theorem origin_of_identifier (hkind : f.kind = .identifier) (hparent : f.parent? = some q)
    (herror : q.kind ≠ .error) : origin f = origin q := by
  obtain ⟨node, - | ⟨step, trail⟩⟩ := f
  · cases hparent
  · cases hparent
    exact (if_neg herror).trans (if_pos hkind)

theorem origin_of_punctuation (hkind : f.kind = .punctuation) (hparent : f.parent? = some q)
    (herror : q.kind ≠ .error) : origin f = q := by
  obtain ⟨node, - | ⟨step, trail⟩⟩ := f
  · cases hparent
  · cases hparent
    have hidentifier : node.kind ≠ .identifier := fun h => nomatch hkind.symm.trans h
    exact (if_neg herror).trans ((if_neg hidentifier).trans (if_pos hkind))

/-! ### Pseudo selectors -/

/-- `n` tells of the pseudo selector `p`: it is `p` itself, its mark or the name behind the
    mark, or a fragment of these. -/
inductive TellsPseudo : Focus → Focus → Prop
  | itself {p : Focus} (hkind : p.kind.isPseudo) : TellsPseudo p p
  | classMark {n p : Focus} (hkind : n.kind = .punctuation) (hparent : n.parent? = some p)
      (hpseudo : p.kind = .selector .pseudoClass) (hmark : n.node.tag = pseudoClassMark) :
      TellsPseudo n p
  | elementMark {n p : Focus} (hkind : n.kind = .punctuation) (hparent : n.parent? = some p)
      (hpseudo : p.kind = .selector .pseudoElement) (hmark : n.node.tag = pseudoElementMark) :
      TellsPseudo n p
  | className {n p : Focus} (hkind : n.kind = .className) (hparent : n.parent? = some p)
      (hpseudo : p.kind = .selector .pseudoClass) (hmark : n.follows pseudoClassMark) :
      TellsPseudo n p
  | elementName {n p : Focus} (hkind : n.kind = .selector .tag) (hparent : n.parent? = some p)
      (hpseudo : p.kind = .selector .pseudoElement) (hmark : n.follows pseudoElementMark) :
      TellsPseudo n p
  | fragment {n q p : Focus} (hkind : n.kind = .identifier) (hparent : n.parent? = some q)
      (herror : q.kind ≠ .error) (hq : TellsPseudo q p) : TellsPseudo n p

/-- The subject of what tells of a pseudo selector. -/
def ofPseudo (source : String) (p : Focus) : Subject :=
  if p.kind = .selector .pseudoClass then ofPseudoClass source p else pseudoElement p

theorem TellsPseudo.isPseudo (h : TellsPseudo n p) : p.kind.isPseudo := by
  induction h with
  | itself hkind => exact hkind
  | classMark _ _ hpseudo | elementMark _ _ hpseudo | className _ _ hpseudo
  | elementName _ _ hpseudo => exact congrArg Kind.isPseudo hpseudo
  | fragment _ _ _ _ ih => exact ih

theorem TellsPseudo.climbs (h : TellsPseudo n p) : n.Climbs p := by
  induction h with
  | itself => exact .refl
  | classMark _ hparent | elementMark _ hparent | className _ hparent
  | elementName _ hparent => exact .single hparent
  | fragment _ hparent _ _ ih => exact .head hparent ih

/-! ### Classification -/

/-- Whether a node is a part of a selector: it can hold one, or it is a name in one. -/
def IsPart (f : Focus) : Prop :=
  holdsSelector f ∨ f.kind = .className ∨ f.kind = .idName ∨ f.kind = .attributeName ∨
    f.kind = .namespaceName

instance (f : Focus) : Decidable (IsPart f) := inferInstanceAs (Decidable (_ ∨ _))

/-- The rules by which a subject is decided at a node. -/
inductive Rule (g : Focus) : Subject → Prop
  | declaration (hkind : g.kind = .declaration) : Rule g (property g)
  | propertyName {d : Focus} (hkind : g.kind = .propertyName) (hparent : g.parent? = some d)
      (hdeclaration : d.kind = .declaration) : Rule g (property d)
  | value (hpart : ¬IsPart g) : Rule g (ofValue g)
  | selector (hpart : IsPart g) : Rule g (ofSelector g)
  | keyword (hkind : g.kind = .atKeyword) : Rule g (atRule g)
  | keywordToken (hkind : g.kind = .keywordToken) (hparent : g.parentIs Kind.isStatement) :
      Rule g (atRule g)

/-- Whether a node speaks for the punctuation in it: it can hold a part of a selector or of
    a value. -/
def Bears (f : Focus) : Prop := holdsSelector f ∨ f.kind = .value ∨ f.kind = .callExpression

/-- All that classification can make of a node. -/
inductive Verdict (source : String) (n : Focus) : Subject → Prop
  | rule {subject : Subject} (h : Rule (origin n) subject) : Verdict source n subject
  | pseudo {p : Focus} (h : TellsPseudo n p) : Verdict source n (ofPseudo source p)
  | unsupported {m : Focus} (h : n.Climbs m) (hbears : ¬Bears (origin n)) :
      Verdict source n (unsupported m)

/-- A node that is neither a fragment nor punctuation decides by itself. -/
theorem Rule.verdict {k : Kind} {subject : Subject} (h : Rule f subject) (hkind : f.kind = k)
    (hidentifier : k ≠ .identifier := by simp) (hpunctuation : k ≠ .punctuation := by simp) :
    Verdict source f subject := by
  have horigin : origin f = f := origin_of_kind hkind hidentifier hpunctuation
  exact .rule (horigin.symm ▸ h)

/-- Punctuation has the rule of its parent. -/
theorem Rule.verdict_of_punctuation {k : Kind} {subject : Subject} (h : Rule q subject)
    (hkind : f.kind = .punctuation) (hparent : f.parent? = some q) (hq : q.kind = k)
    (herror : k ≠ .error := by simp) : Verdict source f subject := by
  have horigin : origin f = q := origin_of_punctuation hkind hparent (hq ▸ herror)
  exact .rule (horigin.symm ▸ h)

/-- A fragment of a name has the verdict on the node around it. -/
theorem Verdict.fragment {subject : Subject} (h : Verdict source q subject)
    (hkind : f.kind = .identifier) (hparent : f.parent? = some q) (herror : q.kind ≠ .error) :
    Verdict source f subject := by
  cases h with
  | rule h => exact .rule (origin_of_identifier hkind hparent herror ▸ h)
  | pseudo h => exact .pseudo (.fragment hkind hparent herror h)
  | unsupported h hbears =>
    exact .unsupported (.head hparent h) (origin_of_identifier hkind hparent herror ▸ hbears)

theorem rule_ofValue {k : Kind} (hkind : g.kind = k)
    (hvalue : k = .value ∨ k = .callExpression ∨ k = .functionName := by simp) :
    Rule g (ofValue g) := by
  refine .value ?_
  rcases hvalue with rfl | rfl | rfl <;>
    simp [IsPart, holdsSelector, argumentsOfPseudo, hkind, Kind.isSelector]

theorem rule_ofArguments (hkind : g.kind = .arguments) : Rule g (ofArguments g) := by
  rw [ofArguments]
  split_ifs with harguments
  · exact .selector (.inl (by simp [holdsSelector, harguments]))
  · refine .value ?_
    simp [IsPart, holdsSelector, harguments, hkind, Kind.isSelector]

theorem rule_ofSelector {k : SelectorKind} (hkind : g.kind = .selector k) :
    Rule g (ofSelector g) :=
  .selector (.inl (by simp [holdsSelector, hkind, Kind.isSelector]))

theorem rule_ofName {k : Kind} (hkind : g.kind = k)
    (hname : k = .className ∨ k = .idName ∨ k = .attributeName ∨ k = .namespaceName := by simp) :
    Rule g (ofSelector g) :=
  .selector (.inr (hkind ▸ hname))

theorem not_bears_of_kind {k : Kind} (hkind : f.kind = k)
    (hk : (∀ s, k ≠ .selector s) ∧ k ≠ .arguments ∧ k ≠ .value ∧ k ≠ .callExpression) :
    ¬Bears f := by
  obtain ⟨hselector, harguments, hvalue, hcall⟩ := hk
  have hnot : ¬k.isSelector := by
    rw [Kind.isSelector.eq_def]
    split
    · exact absurd rfl (hselector _)
    · exact nofun
  simp [Bears, holdsSelector, argumentsOfPseudo, hkind, hnot, harguments, hvalue, hcall]

/-- A node that speaks for nothing, and leaves its subject to no other, is about nothing. -/
theorem verdict_unsupported {k : Kind} (hkind : f.kind = k) (horigin : origin f = f)
    (hk : (∀ s, k ≠ .selector s) ∧ k ≠ .arguments ∧ k ≠ .value ∧ k ≠ .callExpression := by simp) :
    Verdict source f (unsupported f) :=
  .unsupported .refl (horigin.symm ▸ not_bears_of_kind hkind hk)

theorem ofPseudo_of_class (hkind : p.kind = .selector .pseudoClass) :
    ofPseudo source p = ofPseudoClass source p := if_pos hkind

theorem ofPseudo_of_element (hkind : p.kind = .selector .pseudoElement) :
    ofPseudo source p = pseudoElement p := if_neg (by simp [hkind])

/-- Punctuation is about what its parent is about, or about nothing. -/
theorem verdict_ofPunctuation (hkind : f.kind = .punctuation) :
    Verdict source f (ofPunctuation source f) := by
  rw [ofPunctuation]
  split
  · rename_i hparent
    exact verdict_unsupported hkind (origin_of_root hparent)
  · rename_i parent hparent
    split
    · rename_i hclass
      split_ifs with hmark
      · rw [← ofPseudo_of_class hclass]
        exact .pseudo (.classMark hkind hparent hclass hmark)
      · exact (rule_ofSelector hclass).verdict_of_punctuation hkind hparent hclass
    · rename_i helement
      split_ifs with hmark
      · rw [← ofPseudo_of_element helement]
        exact .pseudo (.elementMark hkind hparent helement hmark)
      · exact (rule_ofSelector helement).verdict_of_punctuation hkind hparent helement
    · rename_i harguments
      exact (rule_ofArguments harguments).verdict_of_punctuation hkind hparent harguments
    · rename_i hvalue
      exact (rule_ofValue hvalue).verdict_of_punctuation hkind hparent hvalue
    · rename_i hcall
      exact (rule_ofValue hcall).verdict_of_punctuation hkind hparent hcall
    · rename_i hselector
      exact (rule_ofSelector hselector).verdict_of_punctuation hkind hparent hselector
    · rename_i harguments hvalue hcall hselector
      by_cases herror : parent.kind = .error
      · exact verdict_unsupported hkind (origin_of_error hparent herror)
      · refine .unsupported .refl ?_
        rw [origin_of_punctuation hkind hparent herror]
        exact not_bears_of_kind rfl ⟨hselector, harguments, hvalue, hcall⟩

theorem verdict_ofNode (source : String) (node : Tree) (trail : List Step) :
    Verdict source ⟨node, trail⟩ (ofNode source node trail) := by
  fun_induction ofNode source node trail with
  -- A fragment of a name has the subject of the node around it.
  | case11 node hkind step trail hparent ih => exact ih.fragment hkind rfl hparent
  -- The names of properties and of pseudo selectors are about their parents.
  | case2 trail node f hkind parent hparent hdeclaration =>
    exact (Rule.propertyName hkind hparent hdeclaration).verdict hkind
  | case12 trail node f hkind parent hparent hpseudo =>
    rw [← ofPseudo_of_class hpseudo.1]
    exact .pseudo (.className hkind hparent hpseudo.1 hpseudo.2)
  | case15 trail node f hkind parent hparent hpseudo =>
    rw [← ofPseudo_of_element hpseudo.1]
    exact .pseudo (.elementName hkind hparent hpseudo.1 hpseudo.2)
  | case18 trail node f hkind =>
    rw [← ofPseudo_of_class hkind]
    exact .pseudo (.itself (congrArg Kind.isPseudo hkind))
  | case19 trail node f hkind =>
    rw [← ofPseudo_of_element hkind]
    exact .pseudo (.itself (congrArg Kind.isPseudo hkind))
  | case27 trail node f hkind => exact verdict_ofPunctuation hkind
  -- Any other node is about itself, or about what is around it by a rule.
  | case1 trail node f hkind => exact (Rule.declaration hkind).verdict hkind
  | case5 trail node f hkind | case6 trail node f hkind | case7 trail node f hkind =>
    exact (rule_ofValue hkind).verdict hkind
  | case8 trail node f hkind => exact (rule_ofArguments hkind).verdict hkind
  | case16 trail node f hkind | case17 trail node f hkind =>
    exact (rule_ofSelector hkind).verdict hkind
  | case20 trail node f k _ _ _ hkind => exact (rule_ofSelector hkind).verdict hkind
  | case13 trail node f hkind | case14 trail node f hkind | case21 trail node f hkind
  | case22 trail node f hkind | case23 trail node f hkind =>
    exact (rule_ofName hkind).verdict hkind
  | case24 trail node f hkind => exact (Rule.keyword hkind).verdict hkind
  | case25 trail node f hkind hparent => exact (Rule.keywordToken hkind hparent).verdict hkind
  -- What is left is about nothing.
  | case3 trail node f hkind | case4 trail node f hkind | case26 trail node f hkind =>
    exact verdict_unsupported hkind (origin_of_kind hkind)
  | case9 node hkind => exact verdict_unsupported hkind rfl
  | case10 node hkind step trail herror =>
    exact verdict_unsupported hkind (origin_of_error rfl herror)
  | case28 trail node f _ _ hvalue hcall _ harguments hname _ _ _ _ hselector _ _ _ _ _ hmark =>
    exact verdict_unsupported rfl (origin_of_ne hname hmark)
      ⟨hselector, harguments, hvalue, hcall⟩

/-- All that classification can make of a node is made by a verdict. -/
theorem verdict_ofFocus (source : String) (n : Focus) : Verdict source n (ofFocus source n) :=
  verdict_ofNode source n.node n.trail

/-! ### Ancestors -/

theorem Rule.climbs {subject : Subject} (h : Rule g subject) : g.Climbs subject.focus := by
  cases h with
  | propertyName _ hparent => exact .single hparent
  | value =>
    rw [ofValue]
    split
    · exact (declaration?_eq_some_iff.1 ‹_›).climbs
    · exact .refl
  | selector =>
    rw [ofSelector]
    split
    · exact (climbsBy_outermost? ‹_›).1.climbs
    · exact .refl
  | _ => exact .refl

theorem Verdict.climbs {subject : Subject} (h : Verdict source n subject) :
    n.Climbs subject.focus := by
  cases h with
  | rule h => exact (climbs_origin n).trans h.climbs
  | pseudo h =>
    rw [ofPseudo, ofPseudoClass]
    split_ifs <;> exact h.climbs
  | unsupported h => exact h

/-- What a node is about is the node itself or one of its ancestors. -/
theorem climbs_ofFocus (source : String) (f : Focus) : f.Climbs (ofFocus source f).focus :=
  (verdict_ofFocus source f).climbs

/-! ### Kinds -/

/-- What a subject of `n` has to be. -/
def Fits (n : Focus) : Subject → Prop
  | property declaration => declaration.kind = .declaration
  -- The declaration is the nearest one around the term, and the term is the node or around it.
  | value declaration term => WrittenIn term declaration ∧ n.Climbs term
  -- The item is the outermost one of the nodes that can hold a part of a selector.
  | selector item =>
    (origin n).ClimbsBy (holdsSelector ·) item ∧
      ∀ parent, item.parent? = some parent →
        ¬parent.kind.isSelector ∧ ¬argumentsOfPseudo parent ∧ parent.kind ≠ .error
  | pseudoClass item => item.kind = .selector .pseudoClass
  | pseudoElement item => item.kind.isPseudo
  | atRule keyword =>
    keyword.kind = .atKeyword ∨
      keyword.node.named = false ∧ keyword.node.tag.toList.head? = some '@' ∧
        keyword.parentIs Kind.isStatement
  -- A part of a selector is loose, and what can hold a term stands in no declaration.
  | unsupported _ =>
    (holdsSelector (origin n) → Loose (origin n)) ∧
      ((origin n).kind = .value ∨ (origin n).kind = .callExpression →
        ∀ declaration, ¬WrittenIn (origin n) declaration)

theorem Rule.fits {subject : Subject} (h : Rule (origin n) subject) : Fits n subject := by
  cases h with
  | declaration hkind => exact hkind
  | propertyName _ _ hdeclaration => exact hdeclaration
  | value hpart =>
    rw [ofValue]
    split
    · exact ⟨declaration?_eq_some_iff.1 ‹_›, climbs_origin n⟩
    · rename_i hnone
      refine ⟨fun hholds => absurd (.inl hholds) hpart, fun _ declaration hwritten => ?_⟩
      rw [declaration?_eq_some_iff.2 hwritten] at hnone
      cases hnone
  | selector hpart =>
    rw [ofSelector]
    split
    · obtain ⟨hclimbs, hend⟩ := climbsBy_outermost? ‹_›
      refine ⟨hclimbs, fun parent hparent => ?_⟩
      obtain ⟨hholds, herror⟩ := hend parent hparent
      rw [holdsSelector, Bool.or_eq_true, not_or] at hholds
      exact ⟨hholds.1, hholds.2, herror⟩
    · refine ⟨fun _ => outermost?_eq_none_iff.1 ‹_›, ?_⟩
      rintro (hkind | hkind) <;>
        simp [IsPart, holdsSelector, argumentsOfPseudo, hkind, Kind.isSelector] at hpart
  | keyword hkind => exact .inl hkind
  | keywordToken hkind hparent =>
    obtain ⟨hnamed, hat⟩ := Label.token_of_keywordToken hkind
    exact .inr ⟨hnamed, hat, hparent⟩

theorem Verdict.fits {subject : Subject} (h : Verdict source n subject) : Fits n subject := by
  cases h with
  | rule h => exact h.fits
  | pseudo h =>
    rw [ofPseudo, ofPseudoClass]
    split_ifs with hkind
    · exact h.isPseudo
    · exact hkind
    · exact h.isPseudo
  | unsupported _ hbears =>
    exact ⟨fun hholds => absurd (.inl hholds) hbears, fun hkind => absurd (.inr hkind) hbears⟩

/-- Classification lands on a construct of the right kind. What a node is about is the node
    or one of its ancestors. A property is about a declaration; a term of a value is about
    the nearest one, with no other declaration, block, rule or stylesheet in between. A
    selector is reached through selectors and arguments of pseudo selectors only, and
    its parent is neither of them nor what error recovery could not read. A pseudo-class and
    a pseudo-element are pseudo selectors, and the keyword of an at-rule is an at-keyword,
    or the token that starts with an at sign in an at-statement. A selector is about nothing
    only where it is loose, and a value only where no declaration is around it. -/
theorem subject_is_construct_around (source : String) (n : Focus) :
    n.Climbs (ofFocus source n).focus ∧ Fits n (ofFocus source n) :=
  ⟨climbs_ofFocus source n, (verdict_ofFocus source n).fits⟩

end Subject

end StyleLens
