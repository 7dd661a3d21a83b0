import StyleLens.Docs.Entry
import StyleLens.Markdown
import StyleLens.Nesting
import StyleLens.Settings

/-!
# Contents of hovers

The text that a hover shows: the documentation of an entry (`Entry.render`), or
the preview and the weight of a selector (`Content.ofReport`). A client that
renders markdown gets markdown, and any other one plain text.
-/

namespace StyleLens

/-- How a hover is shown to a client. -/
structure Presentation where
  /-- The client renders markdown. -/
  markdown : Bool
  settings : Sections
  deriving DecidableEq

/-- What a hover shows. -/
inductive Content where
  | nothing
  | document (markdown : Bool) (text : String)
  /-- The preview of a selector as markup, and a line about its weight. -/
  | selector (preview line : String)
  deriving DecidableEq

/-- The word for a topic at the head of a sentence. -/
def Topic.word : Topic → String
  | .property => "Property"
  | .pseudoClass => "Pseudo-class"
  | .pseudoElement => "Pseudo-element"
  | .atRule => "At-rule"

/-- What to know of a construct that is not a standard, and a blank line. -/
def Status.caution? (topic : Topic) : Status → Option String
  | .standard => none
  | .experimental =>
    some ("⚠️ " ++ topic.word ++ " is experimental. Be cautious when using it.\n\n")
  | .nonstandard => some ("🚨️ " ++ topic.word ++ " is nonstandard. Avoid using it.\n\n")
  | .obsolete => some ("🚨️ " ++ topic.word ++ " is obsolete. Avoid using it.\n\n")

/-- A link to more documentation. -/
def Reference.render (markdown : Bool) (r : Reference) : String :=
  if markdown then "[" ++ r.name ++ "](" ++ r.url ++ ")" else r.name ++ " (" ++ r.url ++ ")"

namespace Entry

/-- The description of an entry without the blanks around it. -/
def renderDescription (markdown : Bool) (e : Entry) : String :=
  match e.description with
  | none => ""
  | some description =>
    let text := String.ofList (Text.trim description.toList)
    if markdown then text else Markdown.toPlain text

/-- The grammar of an entry, after a blank line. -/
def renderGrammar (e : Entry) : String :=
  match e.grammar with
  | none => ""
  | some grammar => if grammar = "" then "" else "\n\nSyntax: " ++ grammar

/-- What an entry says about its construct: status, description and grammar. -/
def renderDocumentation (topic : Topic) (markdown : Bool) (e : Entry) : String :=
  (e.status.bind (Status.caution? topic)).getD "" ++ e.renderDescription markdown ++ e.renderGrammar

/-- The links of an entry, in one line. -/
def renderReferences (markdown : Bool) (e : Entry) : String :=
  " | ".intercalate (e.references.map (Reference.render markdown))

/-- The text of an entry: what it says about its construct, and its links. -/
def render (topic : Topic) (p : Presentation) (e : Entry) : String :=
  let text := if p.settings.documentation then e.renderDocumentation topic p.markdown else ""
  if p.settings.references ∧ e.references ≠ [] then
    (if text = "" then "" else text ++ "\n\n") ++ e.renderReferences p.markdown
  else text

end Entry

/-- The page about the weight of selectors. -/
def weightPage : String := "https://developer.mozilla.org/en-US/docs/Web/CSS/Specificity"

/-- The line about the weight of a selector, with a link if links are shown. -/
def weightLine (p : Presentation) (w : Specificity) : String :=
  let label := "Selector Specificity"
  let link :=
    if p.settings.references then Reference.render p.markdown ⟨label, weightPage⟩ else label
  link ++ ": " ++ w.render

namespace Content

/-- The content that documents a construct by an entry. -/
def ofEntry (topic : Topic) (p : Presentation) (e : Entry) : Content :=
  let text := e.render topic p
  if text = "" then nothing else document p.markdown text

/-- The content about a selector. -/
def ofReport (p : Presentation) (r : Report) : Content :=
  selector r.preview (weightLine p r.own)

end Content

end StyleLens
