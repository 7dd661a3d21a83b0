import StyleLens.Docs.Entry
import StyleLens.Failure
import StyleLens.Index
import StyleLens.Json.Reader
import StyleLens.Log
import StyleLens.Text.Basic

/-!
# Sets of documentation

Entries by topic and by key, which is the name of the construct in small
letters without the colons or the `@` in front of it. A later entry replaces an
earlier one with the same key. Files of data are laid over each other in this
way (`Dataset.withFiles`); a file that cannot be used changes nothing.
-/

namespace StyleLens

/-- The four groups of entries of a file of documentation data. -/
structure DataFile where
  properties : List Entry
  pseudoClasses : List Entry
  pseudoElements : List Entry
  atDirectives : List Entry

/-- A file of documentation data as it is written in JSON. -/
def DataFile.ofJson? (v : Json) : Option DataFile := do
  match ← v.fields? ["properties", "pseudoClasses", "pseudoElements", "atDirectives"] with
  | [properties, pseudoClasses, pseudoElements, atDirectives] =>
    let group := Json.defaulted? (Json.listOf? Entry.ofJson?) []
    pure ⟨← group properties, ← group pseudoClasses, ← group pseudoElements, ← group atDirectives⟩
  | _ => none

/-- The entries of a file in order, each with its topic. -/
def DataFile.entries (file : DataFile) : List (Topic × Entry) :=
  file.properties.map (Topic.property, ·) ++ file.pseudoClasses.map (Topic.pseudoClass, ·) ++
    file.pseudoElements.map (Topic.pseudoElement, ·) ++ file.atDirectives.map (Topic.atRule, ·)

/-- The key of a name: small letters, and no colons or `@` in front. -/
def Entry.keyOf (name : String) : String :=
  String.ofList (Text.lower (name.toList.dropWhile fun c => c = ':' ∨ c = '@'))

/-- Documentation entries by topic and key. -/
structure Dataset where
  index : Index (Topic × String) Entry

namespace Dataset

/-- No documentation. -/
def empty : Dataset := ⟨.empty⟩

/-- The number of entries. -/
def size (d : Dataset) : Nat := d.index.size

/-- The entry with a topic and a key. -/
def get? (d : Dataset) (topic : Topic) (key : String) : Option Entry := d.index.get? (topic, key)

/-- The documentation with one more entry, which replaces the one with its key. -/
def insert (d : Dataset) (topic : Topic) (e : Entry) : Dataset :=
  ⟨d.index.insert (topic, Entry.keyOf e.name) e⟩

/-- Two sets laid over each other: entries of the second one replace those of
    the first. -/
def merge (d other : Dataset) : Dataset := ⟨d.index.merge other.index⟩

/-- The entries of a file. -/
def ofFile (file : DataFile) : Dataset :=
  file.entries.foldl (fun d (topic, e) => d.insert topic e) empty

/-- The entries of a file of documentation data with the given text. -/
def ofText (text : String) : Except Failure Dataset :=
  match (Json.parse? text).bind DataFile.ofJson? with
  | some file => .ok (ofFile file)
  | none => .error (.json "Failed to parse CSS data")

/-- The entries of the file at a path, where `read` gives the texts of files. -/
def ofPath (read : String → Option String) (path : String) : Except Failure Dataset :=
  match read path with
  | none => .error (.file ("Failed to read custom data " ++ path))
  | some text =>
    match ofText text with
    | .ok d => .ok d
    | .error e => .error (.customData path e.message)

/-- One more file laid over some documentation. A file that cannot be used is
    left out, with a warning. -/
def layFile (read : String → Option String) (state : Dataset × List LogRecord) (path : String) :
    Dataset × List LogRecord :=
  match ofPath read path with
  | .ok custom => (state.1.merge custom, state.2)
  | .error e => (state.1, state.2 ++ [.warn ("Ignoring custom data: " ++ e.message)])

/-- Documentation with files laid over it in order, and the warnings. -/
def withFiles (d : Dataset) (read : String → Option String) (paths : List String) :
    Dataset × List LogRecord :=
  paths.foldl (layFile read) (d, [])

end Dataset

end StyleLens
