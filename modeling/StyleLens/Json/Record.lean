import StyleLens.Json.Basic

/-!
# Records in JSON

How a record with named fields is written in JSON: as an object, in which
members with other names do not matter and a field must not be given twice, or
as an array of the fields in order. Fields with a default can be missing from
the end of the array (`fields?`); of a record without defaults, the array has
all fields (`allFields?`).
-/

namespace StyleLens.Json

/-- The value of a field among some members: none if it is not there, and no
    answer if it is there twice. -/
def field? (members : List (Option String × Json)) (name : String) : Option (Option Json) :=
  match members.filter (·.1 = some name) with
  | [] => some none
  | [(_, value)] => some (some value)
  | _ => none

/-- The values of the fields of a record, in the order of `names`. -/
def fields? (names : List String) : Json → Option (List (Option Json))
  | object members =>
    -- Every key is read, so none can be broken.
    if members.all (·.1.isSome) then names.mapM (field? members) else none
  | array items =>
    if items.length ≤ names.length then
      some ((List.range names.length).map fun i => items[i]?)
    else none
  | _ => none

/-- The values of the fields of a record without defaults, in the order of
    `names`. -/
def allFields? (names : List String) : Json → Option (List (Option Json))
  | array items => if items.length = names.length then some (items.map some) else none
  | v => v.fields? names

/-- The value of one field of a record without defaults, whose fields are `names`. -/
def oneField? (names : List String) (name : String) (v : Json) : Option (Option Json) := do
  let values ← v.allFields? names
  pure ((names.zip values).lookup name).join

/-- The values of the fields of a record that is never written as an array. -/
def memberFields? (names : List String) : Json → Option (List (Option Json))
  | array _ => none
  | v => v.fields? names

/-- A field that must be there. -/
def required? {α : Type} (read : Json → Option α) : Option Json → Option α
  | some v => read v
  | none => none

/-- A field that has a default where it is missing. -/
def defaulted? {α : Type} (read : Json → Option α) (default : α) : Option Json → Option α
  | some v => read v
  | none => some default

/-- A field that can be missing or `null`. -/
def optional? {α : Type} (read : Json → Option α) : Option Json → Option (Option α)
  | some .null | none => some none
  | some v => (read v).map some

/-- The items of an array, each read. -/
def listOf? {α : Type} (read : Json → Option α) (v : Json) : Option (List α) :=
  v.items?.bind fun items => items.mapM read

/-- One of some words: written as a string, or as an object with the word as its
    only key and `null` under it. -/
def choice? {α : Type} (words : List (String × α)) : Json → Option α
  | string (some word) => words.lookup word
  | object [(some word, null)] => words.lookup word
  | _ => none

end StyleLens.Json
