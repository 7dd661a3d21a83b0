import StyleLens.Docs.Entry
import StyleLens.Selector.Read
import StyleLens.Selector.Weight
import StyleLens.Tree.Focus

/-!
# What a cursor is about

The node under a cursor is seldom the construct that a reader asks about: a
number is a term of the value of a declaration, a dot belongs to the selector
around it. `Subject.ofFocus` climbs from the node to that construct.

* A term of a value belongs to the declaration that it is written in
  (`Subject.ofValue`).
* A part of a selector belongs to the outermost selector around it, which is one
  item of a selector list (`Subject.ofSelector`). A selector that error recovery
  left loose is not supported.
* The name and the mark of a pseudo-class or a pseudo-element are about it
  (`Subject.ofPseudoClass`).
-/

namespace StyleLens

/-- The construct under a cursor. -/
inductive Subject where
  /-- The name of a property, or a declaration as a whole. -/
  | property (declaration : Focus)
  /-- A term in the value of a declaration. -/
  | value (declaration term : Focus)
  /-- One item of a selector list. -/
  | selector (item : Focus)
  | pseudoClass (item : Focus)
  | pseudoElement (item : Focus)
  /-- The keyword of an at-rule. -/
  | atRule (keyword : Focus)
  /-- A node that there is nothing to say about. -/
  | unsupported (node : Focus)

namespace Subject

/-- The node that a subject is about. -/
def focus : Subject → Focus
  | property f | value f _ | selector f | pseudoClass f | pseudoElement f | atRule f
  | unsupported f => f

/-! ### Climbs -/

/-- Whether a node is the arguments of a pseudo-class or a pseudo-element. -/
def argumentsOfPseudo (f : Focus) : Bool := f.kind == .arguments && f.parentIs Kind.isPseudo

/-- Whether a node can hold a part of a selector: it is a selector, or the
    arguments of a pseudo-class or a pseudo-element. -/
def holdsSelector (f : Focus) : Bool := f.kind.isSelector || argumentsOfPseudo f

/-- The outermost selector around a node, found through the nodes that can hold
    a part of a selector. There is none if it stands loose in what error
    recovery could not read. -/
def outermost? (node : Tree) : List Step → Option Focus
  | [] => some ⟨node, []⟩
  | step :: trail =>
    if holdsSelector ⟨step.parent, trail⟩ then outermost? step.parent trail
    else if step.parent.kind = .error then none
    else some ⟨node, step :: trail⟩

/-- The subject of a part of a selector. -/
def ofSelector (f : Focus) : Subject :=
  match outermost? f.node f.trail with
  | some item => selector item
  | none => unsupported f

/-- The declaration that a trail leads up to, if no block, rule or stylesheet
    comes before it. -/
def declaration? : List Step → Option Focus
  | [] => none
  | step :: trail =>
    match step.parent.kind with
    | .declaration => some ⟨step.parent, trail⟩
    | .block | .ruleSet | .stylesheet => none
    | _ => declaration? trail

/-- The subject of a term of a value. -/
def ofValue (f : Focus) : Subject :=
  match declaration? f.trail with
  | some declaration => value declaration f
  | none => unsupported f

/-- Whether the name of a pseudo-class is that of a pseudo-element of old. -/
def namesElement (source : String) (t : Tree) : Bool :=
  (t.nameAfter? pseudoClassMark).any fun name =>
    String.ofList (Text.lower (name.text source).toList) ∈ singleColonElements

/-- The subject of a pseudo-class selector. -/
def ofPseudoClass (source : String) (f : Focus) : Subject :=
  if namesElement source f.node then pseudoElement f else pseudoClass f

/-- The subject of arguments: of a selector for those of a pseudo selector, of a
    value for those of a function. -/
def ofArguments (f : Focus) : Subject := if argumentsOfPseudo f then ofSelector f else ofValue f

/-- The subject of punctuation: inside a selector or a value, that of the node
    around it. -/
def ofPunctuation (source : String) (f : Focus) : Subject :=
  match f.parent? with
  | none => unsupported f
  | some parent =>
    match parent.kind with
    | .selector .pseudoClass =>
      if f.node.tag = pseudoClassMark then ofPseudoClass source parent else ofSelector parent
    | .selector .pseudoElement =>
      if f.node.tag = pseudoElementMark then pseudoElement parent else ofSelector parent
    | .arguments => ofArguments parent
    | .value | .callExpression => ofValue parent
    | .selector _ => ofSelector parent
    | _ => unsupported f

/-! ### Classification -/

/-- The subject of a node with a trail above it. A fragment of a name has that
    of the node around it, unless error recovery left it loose. -/
def ofNode (source : String) (node : Tree) (trail : List Step) : Subject :=
  let f : Focus := ⟨node, trail⟩
  match node.kind with
  | .declaration => property f
  | .propertyName =>
    match f.parent? with
    | some parent => if parent.kind = .declaration then property parent else unsupported f
    | none => unsupported f
  | .value | .callExpression | .functionName => ofValue f
  | .arguments => ofArguments f
  | .identifier =>
    match trail with
    | [] => unsupported f
    | step :: above =>
      if step.parent.kind = .error then unsupported f else ofNode source step.parent above
  | .className =>
    match f.parent? with
    | some parent =>
      if parent.kind = .selector .pseudoClass ∧ f.follows pseudoClassMark then
        ofPseudoClass source parent
      else ofSelector f
    | none => ofSelector f
  | .selector .tag =>
    match f.parent? with
    | some parent =>
      if parent.kind = .selector .pseudoElement ∧ f.follows pseudoElementMark then
        pseudoElement parent
      else ofSelector f
    | none => ofSelector f
  | .selector .pseudoClass => ofPseudoClass source f
  | .selector .pseudoElement => pseudoElement f
  | .selector _ | .idName | .attributeName | .namespaceName => ofSelector f
  | .atKeyword => atRule f
  | .keywordToken => if f.parentIs Kind.isStatement then atRule f else unsupported f
  | .punctuation => ofPunctuation source f
  | _ => unsupported f

/-- The construct that a node is about. -/
def ofFocus (source : String) (f : Focus) : Subject := ofNode source f.node f.trail

/-! ### Names -/

/-- A text without the `@` that it may start with. -/
def withoutAt (text : String) : String :=
  match Text.dropHead? ['@'] text.toList with
  | some rest => String.ofList rest
  | none => text

/-- The name of the construct as it is written: of a property its name, of a
    pseudo selector its name without colons, of an at-rule its keyword. -/
def name? (source : String) : Subject → Option String
  | property declaration | value declaration _ =>
    (declaration.node.children.find? (·.kind = .propertyName)).map (·.text source)
  | pseudoClass item => (item.node.nameAfter? pseudoClassMark).map (·.text source)
  | pseudoElement item =>
    (item.node.nameAfter? pseudoElementMark <|> item.node.nameAfter? pseudoClassMark).map
      (·.text source)
  | atRule keyword => some (withoutAt (keyword.node.text source))
  | selector _ | unsupported _ => none

/-- The topic that the construct is documented under, if it is. -/
def topic? : Subject → Option Topic
  | property _ | value _ _ => some .property
  | pseudoClass _ => some .pseudoClass
  | pseudoElement _ => some .pseudoElement
  | atRule _ => some .atRule
  | selector _ | unsupported _ => none

end Subject

end StyleLens
