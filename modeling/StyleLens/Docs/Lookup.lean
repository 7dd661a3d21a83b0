import StyleLens.Docs.Dataset
import StyleLens.Text.Basic

/-!
# Looking up names

How a name that is written in a stylesheet finds its documentation
(`Dataset.lookUp?`): the name itself is tried first, so that a construct of one
vendor keeps its own documentation, and then the name without a vendor's mark.
-/

namespace StyleLens

namespace Dataset

/-- A name as it is looked up: no blanks around it, no colons or `@` and then no
    `*` or `_` in front of it, in small letters. -/
def searchKey (name : String) : String :=
  let bare := (Text.trim name.toList).dropWhile fun c => c = ':' ∨ c = '@'
  String.ofList (Text.lower (bare.dropWhile fun c => c = '*' ∨ c = '_'))

/-- What a name is without a vendor's mark, if it has one and is more than it. -/
def withoutVendor? (name : String) : Option String :=
  match unmarked? name.toList with
  | some (c :: rest) => some (String.ofList (c :: rest))
  | _ => none

/-- The documentation of a name: that of the name itself, or else that of the
    name without its vendor's mark. -/
def lookUp? (d : Dataset) (topic : Topic) (name : String) : Option Entry :=
  let key := searchKey name
  if key = "" then none
  else d.get? topic key <|> (withoutVendor? key).bind (d.get? topic)

end Dataset

end StyleLens
