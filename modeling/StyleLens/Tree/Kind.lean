import StyleLens.Selector.Basic

/-!
# Kinds of syntax nodes

What a node of the syntax tree of a stylesheet stands for. A named node tells
its kind by its tag; an anonymous node is a token, either the keyword of an
at-statement (`@media`) or punctuation.

The kinds that are selectors and the kinds that are at-statements are families
of their own, `SelectorKind` and `StatementKind`.
-/

namespace StyleLens

/-- The selectors: simple ones, and two selectors joined by a combinator. -/
inductive SelectorKind where
  | tag
  | universal
  /-- The selector `&` of a nested rule. -/
  | nesting
  | byClass
  | byId
  | byAttribute
  | pseudoClass
  | pseudoElement
  | namespaced
  | joined (combinator : Combinator)
  deriving DecidableEq

/-- The statements that an at-keyword starts. -/
inductive StatementKind where
  /-- An at-rule that the grammar has no statement of its own for. -/
  | atRule
  | imports
  | charset
  | media
  | namespaces
  | supports
  | keyframes
  deriving DecidableEq

/-- What a node of the syntax tree stands for. -/
inductive Kind where
  | stylesheet
  | ruleSet
  | selectors
  | block
  | declaration
  | propertyName
  | important
  | selector (kind : SelectorKind)
  | className
  /-- A fragment of a name. -/
  | identifier
  | idName
  | attributeName
  | namespaceName
  | arguments
  | statement (kind : StatementKind)
  | atKeyword
  | keyframesName
  | keyframeBlockList
  | keyframeBlock
  /-- A part of a media or supports query. -/
  | query
  /-- A term in the value of a declaration. -/
  | value
  | callExpression
  | functionName
  | comment
  /-- What error recovery could not read. -/
  | error
  /-- An anonymous token that starts with `@`. -/
  | keywordToken
  /-- Any other anonymous token. -/
  | punctuation
  | unknown
  deriving DecidableEq

namespace Kind

/-- The tag of a node that error recovery made. -/
def errorTag : String := "ERROR"

/-- The kinds of the tags of named nodes. -/
def tags : List (String × Kind) :=
  [("stylesheet", stylesheet), ("rule_set", ruleSet), ("selectors", selectors),
    ("block", block), ("declaration", declaration), ("property_name", propertyName),
    ("important", important),
    ("tag_name", selector .tag), ("universal_selector", selector .universal),
    ("nesting_selector", selector .nesting), ("class_selector", selector .byClass),
    ("id_selector", selector .byId), ("attribute_selector", selector .byAttribute),
    ("pseudo_class_selector", selector .pseudoClass),
    ("pseudo_element_selector", selector .pseudoElement),
    ("descendant_selector", selector (.joined .descendant)),
    ("child_selector", selector (.joined .child)),
    ("adjacent_sibling_selector", selector (.joined .nextSibling)),
    ("sibling_selector", selector (.joined .subsequentSibling)),
    ("namespace_selector", selector .namespaced),
    ("class_name", className), ("identifier", identifier), ("escape_sequence", identifier),
    ("id_name", idName), ("attribute_name", attributeName), ("namespace_name", namespaceName),
    ("arguments", arguments),
    ("at_rule", statement .atRule), ("import_statement", statement .imports),
    ("charset_statement", statement .charset), ("media_statement", statement .media),
    ("namespace_statement", statement .namespaces),
    ("supports_statement", statement .supports),
    ("keyframes_statement", statement .keyframes),
    ("at_keyword", atKeyword), ("keyframes_name", keyframesName),
    ("keyframe_block_list", keyframeBlockList), ("keyframe_block", keyframeBlock),
    ("keyword_query", query), ("feature_query", query), ("feature_name", query),
    ("binary_query", query), ("unary_query", query), ("selector_query", query),
    ("parenthesized_query", query),
    ("plain_value", value), ("string_value", value), ("color_value", value),
    ("integer_value", value), ("float_value", value), ("unit", value),
    ("binary_expression", value), ("parenthesized_value", value), ("grid_value", value),
    ("call_expression", callExpression), ("function_name", functionName),
    ("comment", comment), ("js_comment", comment), (errorTag, error)]

/-- The kind of a named node with a tag. -/
def ofTag (tag : String) : Kind := (tags.lookup tag).getD unknown

/-- The kind of an anonymous token with a tag, which is its text. -/
def ofToken (tag : String) : Kind :=
  if tag.toList.head? = some '@' then keywordToken else punctuation

/-- Whether the kind is a selector. -/
def isSelector : Kind → Bool
  | selector _ => true
  | _ => false

/-- Whether the kind is an at-statement. -/
def isStatement : Kind → Bool
  | statement _ => true
  | _ => false

/-- Whether the kind is a pseudo-class or a pseudo-element, whose arguments can
    hold selectors. -/
def isPseudo : Kind → Bool
  | selector .pseudoClass | selector .pseudoElement => true
  | _ => false

end Kind

end StyleLens
