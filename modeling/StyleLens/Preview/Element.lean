import StyleLens.Selector.Basic

/-!
# Sample elements

The element that a compound selector describes, written as a start tag: `a.b`
is `<a class="b">`. Several compounds can speak of one element, and what they
say of one attribute is collected in its value.

* `Element.merge`: an element that satisfies one more compound;
* `Element.render`: the start tag.
-/

namespace StyleLens

/-- The text that stands for what a selector leaves open. -/
def ellipsis : String := "…"

/-- A sample element: its name, if one is known, and its attributes in the order
    of their first mention. -/
structure Element where
  name : Option String
  attributes : List (String × String)
  deriving DecidableEq

/-- The value of an attribute that satisfies an operator with an operand. -/
def sampleValue (operator : Option String) : Option String → String
  | none => ""
  | some value =>
    match operator with
    | some "|=" => value ++ "-" ++ ellipsis
    | some "^=" => value ++ ellipsis
    | some "$=" => ellipsis ++ value
    | some "~=" => " " ++ ellipsis ++ " " ++ value ++ " " ++ ellipsis ++ " "
    | some "*=" => ellipsis ++ value ++ ellipsis
    | _ => value

/-- Two values of one attribute, with a blank between them if neither is empty. -/
def joinValues (old new : String) : String :=
  if new = "" then old else if old = "" then new else old ++ " " ++ new

/-- Attributes with one more value under a name: added to the value that the
    name has, or else at the end. -/
def addValue (name value : String) : List (String × String) → List (String × String)
  | [] => [(name, value)]
  | (n, old) :: rest =>
    if n = name then (n, joinValues old value) :: rest
    else (n, old) :: addValue name value rest

namespace Element

/-- The element that nothing is known of. -/
def blank : Element := ⟨none, []⟩

/-- An element with one more value of an attribute. -/
def add (e : Element) (name value : String) : Element :=
  ⟨e.name, addValue name value e.attributes⟩

/-- An element that satisfies one more simple selector. The first name stays. -/
def refine (e : Element) : Simple → Element
  | .type name => ⟨e.name <|> some name, e.attributes⟩
  | .universal | .nesting => e
  | .byClass name => e.add "class" name
  | .byId name => e.add "id" name
  | .byAttribute name operator value => e.add name (sampleValue operator value)
  | .pseudoClass _ text _ | .pseudoElement _ text _ => e.add text ""

/-- An element that satisfies one more compound. -/
def merge (e : Element) (c : Compound) : Element := c.foldl refine e

/-- The element that a compound describes. -/
def ofCompound (c : Compound) : Element := blank.merge c

/-- The text of an attribute; one without a value is its name only. -/
def renderAttribute (entry : String × String) : String :=
  if entry.2 = "" then " " ++ entry.1
  else " " ++ entry.1 ++ "=\"" ++ entry.2 ++ "\""

/-- The start tag of an element; one without a name is called `element`. -/
def render (e : Element) : String :=
  "<" ++ e.name.getD "element" ++ String.join (e.attributes.map renderAttribute) ++ ">"

end Element

end StyleLens
