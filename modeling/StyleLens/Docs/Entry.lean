import StyleLens.Json.Record

/-!
# Documentation entries

What is known about a property, a pseudo-class, a pseudo-element or an at-rule,
and how it is written in a file of documentation data.
-/

namespace StyleLens

/-- What kind of construct a documentation entry is about. -/
inductive Topic where
  | property
  | pseudoClass
  | pseudoElement
  | atRule
  deriving DecidableEq

/-- A link to more documentation. -/
structure Reference where
  name : String
  url : String
  deriving DecidableEq

/-- How far a construct is a standard. -/
inductive Status where
  | standard
  | experimental
  | nonstandard
  | obsolete
  deriving DecidableEq

/-- The documentation of one construct. -/
structure Entry where
  /-- The name as it is written, such as `color`, `:hover`, `::after`, `@media`. -/
  name : String
  description : Option String
  /-- The grammar of the value of a property. -/
  grammar : Option String
  status : Option Status
  references : List Reference
  deriving DecidableEq

/-- The words for the statuses. -/
def Status.words : List (String × Status) :=
  [("standard", .standard), ("experimental", .experimental), ("nonstandard", .nonstandard),
    ("obsolete", .obsolete)]

/-- A reference as it is written in JSON. -/
def Reference.ofJson? (v : Json) : Option Reference := do
  match ← v.fields? ["name", "url"] with
  | [name, url] => pure ⟨← Json.required? Json.text? name, ← Json.required? Json.text? url⟩
  | _ => none

/-- An entry as it is written in JSON. Only the name must be there. -/
def Entry.ofJson? (v : Json) : Option Entry := do
  match ← v.fields? ["name", "description", "syntax", "status", "references"] with
  | [name, description, grammar, status, references] =>
    pure ⟨← Json.required? Json.text? name,
      ← Json.optional? Json.text? description,
      ← Json.optional? Json.text? grammar,
      ← Json.optional? (Json.choice? Status.words) status,
      ← Json.defaulted? (Json.listOf? Reference.ofJson?) [] references⟩
  | _ => none

end StyleLens
