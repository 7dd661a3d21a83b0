import StyleLens.Json.Record
import StyleLens.Log

/-!
# Settings

What a client can ask for when it starts a session: which parts of the
documentation a hover shows, and which files of documentation data to lay over
the builtin one. It also says whether it can render markdown.
-/

namespace StyleLens

/-- Which parts of the documentation a hover shows. -/
structure Sections where
  /-- The status, the description and the grammar. -/
  documentation : Bool
  /-- The links to more documentation. -/
  references : Bool
  deriving DecidableEq

/-- What a client can set. -/
structure Settings where
  hover : Sections
  /-- The paths of files of documentation data. -/
  customData : List String
  deriving DecidableEq

namespace Sections

/-- A hover shows everything. -/
def all : Sections := ⟨true, true⟩

/-- The settings as they are written in JSON; what is missing is shown. -/
def ofJson? (v : Json) : Option Sections := do
  match ← v.fields? ["documentation", "references"] with
  | [documentation, references] =>
    pure ⟨← Json.defaulted? Json.bool? true documentation,
      ← Json.defaulted? Json.bool? true references⟩
  | _ => none

/-- The word for a boolean. -/
def boolWord (b : Bool) : String := if b then "true" else "false"

/-- The text of the settings in the log. -/
def render (s : Sections) : String :=
  "HoverSettings \x7b documentation: " ++ boolWord s.documentation ++ ", references: "
    ++ boolWord s.references ++ " \x7d"

end Sections

namespace Settings

/-- The settings of a client that sets nothing. -/
def default : Settings := ⟨.all, []⟩

/-- The settings as they are written in JSON. -/
def ofJson? (v : Json) : Option Settings := do
  match ← v.fields? ["hover", "customData"] with
  | [hover, customData] =>
    pure ⟨← Json.defaulted? Sections.ofJson? .all hover,
      ← Json.defaulted? (Json.listOf? Json.text?) [] customData⟩
  | _ => none

/-- The settings in the options of a client: the default ones if it gives none,
    and with a warning if it gives some that cannot be read. -/
def ofOptions (options : Option Json) : Settings × List LogRecord :=
  match options with
  | none => (default, [])
  | some v =>
    match ofJson? v with
    | some settings => (settings, [])
    | none => (default, [.warn "Invalid initialization options, using defaults"])

end Settings

/-! ### Capabilities -/

/-- The groups of capabilities of a client. -/
def capabilityGroups : List String :=
  ["workspace", "textDocument", "window", "general", "experimental"]

/-- The capabilities of a client that concern text documents. -/
def documentCapabilities : List String :=
  ["synchronization", "completion", "hover", "signatureHelp", "references",
    "documentHighlight", "documentSymbol", "formatting", "rangeFormatting",
    "onTypeFormatting", "declaration", "definition", "typeDefinition", "implementation",
    "codeAction", "codeLens", "documentLink", "colorProvider", "rename",
    "publishDiagnostics", "foldingRange", "selectionRange", "linkedEditingRange",
    "callHierarchy", "semanticTokens", "moniker", "typeHierarchy", "inlineValue",
    "inlayHint", "diagnostic"]

/-- The capabilities of a client that concern hovers. -/
def hoverCapabilities : List String := ["dynamicRegistration", "contentFormat"]

/-- The formats that a client lists for hovers: for each one, whether it is
    markdown. There is no answer if its capabilities cannot be read. -/
def hoverFormats? (capabilities : Json) : Option (List Bool) := do
  let format := Json.choice? [("plaintext", false), ("markdown", true)]
  let inHover (v : Json) : Option (Option (List Bool)) := do
    Json.optional? (Json.listOf? format) (← v.oneField? hoverCapabilities "contentFormat")
  let inDocument (v : Json) : Option (Option (Option (List Bool))) := do
    Json.optional? inHover (← v.oneField? documentCapabilities "hover")
  let formats ← Json.optional? inDocument
    (← capabilities.oneField? capabilityGroups "textDocument")
  pure (formats.join.join.getD [])

/-- Whether a client with the given capabilities renders markdown in a hover: it
    must list it among the formats. -/
def rendersMarkdown (capabilities : Json) : Bool :=
  ((hoverFormats? capabilities).getD []).any id

end StyleLens
