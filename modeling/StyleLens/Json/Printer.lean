import StyleLens.Json.Basic

/-!
# Writing JSON

The text of a JSON value, without blanks between its tokens. A broken string
has no text of its own and is written as an empty one.
-/

namespace StyleLens.Json

/-- A hexadecimal number with four digits. -/
def hex4 (n : Nat) : String :=
  let digits := Nat.toDigits 16 n
  String.ofList (List.replicate (4 - digits.length) '0' ++ digits)

/-- A character as it is written in a string. -/
def writeChar (c : Char) : String :=
  match c with
  | '\x22' => "\\\""
  | '\x5c' => "\\\\"
  | '\x08' => "\\b"
  | '\x0c' => "\\f"
  | '\n' => "\\n"
  | '\r' => "\\r"
  | '\t' => "\\t"
  | _ => if c.toNat < 0x20 then "\\u" ++ hex4 c.toNat else String.singleton c

/-- A string in quotes. -/
def writeString (s : String) : String := "\"" ++ String.join (s.toList.map writeChar) ++ "\""

mutual

/-- The text of a value. -/
def write : Json → String
  | .null => "null"
  | .bool b => if b then "true" else "false"
  | .number literal => literal
  | .string text => writeString (text.getD "")
  | .array items => "[" ++ ",".intercalate (writeItems items) ++ "]"
  | .object members => "\x7b" ++ ",".intercalate (writeMembers members) ++ "\x7d"

/-- The texts of some values. -/
def writeItems : List Json → List String
  | [] => []
  | v :: vs => write v :: writeItems vs

/-- The text of a key and a value. -/
def writeMember : Option String × Json → String
  | (key, v) => writeString (key.getD "") ++ ":" ++ write v

/-- The texts of some members. -/
def writeMembers : List (Option String × Json) → List String
  | [] => []
  | m :: ms => writeMember m :: writeMembers ms

end

end StyleLens.Json
