import StyleLens.Json.Basic
import StyleLens.Json.Token

/-!
# Reading JSON

The grammatical part of reading JSON: tokens go one at a time through a machine
with a stack of the arrays and objects that are still open (`Reader.step`).
Exactly one value is read, with nothing after it.
-/

namespace StyleLens.Json

/-- An array or an object that is still open. What it has is held backwards. -/
inductive Frame where
  | array (items : List Json)
  /-- An object in the middle of the member with the given key. -/
  | object (members : List (Option String × Json)) (key : Option String)

/-- What the machine waits for. -/
inductive Expect where
  | value
  /-- A value, or the end of the array that was just opened. -/
  | valueOrEnd
  /-- A key of the object with the given members. -/
  | key (members : List (Option String × Json))
  /-- A key, or the end of the object that was just opened. -/
  | keyOrEnd
  | colon
  /-- A comma, or the end of the innermost array or object. -/
  | next
  /-- Nothing more: the value is read. -/
  | nothing (result : Json)

/-- The machine: what is open, innermost first, and what it waits for. -/
structure Reader where
  stack : List Frame
  expect : Expect

namespace Reader

/-- The machine after a whole value. -/
def supply (stack : List Frame) (v : Json) : Reader :=
  match stack with
  | [] => ⟨[], .nothing v⟩
  | .array items :: rest => ⟨.array (v :: items) :: rest, .next⟩
  | .object members key :: rest => ⟨.object ((key, v) :: members) key :: rest, .next⟩

/-- The machine after the first token of a value. -/
def begin? (stack : List Frame) : Token → Option Reader
  | .null => some (supply stack .null)
  | .bool b => some (supply stack (.bool b))
  | .number literal => some (supply stack (.number literal))
  | .string text => some (supply stack (.string text))
  | .openArray => some ⟨.array [] :: stack, .valueOrEnd⟩
  | .openObject => some ⟨stack, .keyOrEnd⟩
  | _ => none

/-- The machine after a key of an object with the given members. -/
def name? (stack : List Frame) (members : List (Option String × Json)) : Token → Option Reader
  | .string key => some ⟨.object members key :: stack, .colon⟩
  | _ => none

/-- The machine after a comma or a closing token. -/
def continue? (stack : List Frame) (t : Token) : Option Reader :=
  match stack, t with
  | .array _ :: _, .comma => some ⟨stack, .value⟩
  | .array items :: rest, .closeArray => some (supply rest (.array items.reverse))
  | .object members _ :: rest, .comma => some ⟨rest, .key members⟩
  | .object members _ :: rest, .closeObject => some (supply rest (.object members.reverse))
  | _, _ => none

/-- One more token. -/
def step (r : Reader) (t : Token) : Option Reader :=
  match r.expect, t with
  | .value, t => begin? r.stack t
  | .valueOrEnd, .closeArray => continue? r.stack t
  | .valueOrEnd, t => begin? r.stack t
  | .key members, t => name? r.stack members t
  | .keyOrEnd, .closeObject => some (supply r.stack (.object []))
  | .keyOrEnd, t => name? r.stack [] t
  | .colon, .colon => some ⟨r.stack, .value⟩
  | .colon, _ => none
  | .next, t => continue? r.stack t
  | .nothing _, _ => none

/-- The value that was read, if it is whole. -/
def result? (r : Reader) : Option Json :=
  match r.expect with
  | .nothing v => some v
  | _ => none

end Reader

/-- The value that a text is written for. -/
def parse? (s : String) : Option Json :=
  (tokens? s).bind fun tokens =>
    (tokens.foldlM Reader.step ⟨[], .value⟩).bind Reader.result?

end StyleLens.Json
