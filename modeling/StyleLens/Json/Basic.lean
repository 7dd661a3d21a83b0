/-!
# JSON values

A JSON value as it is written: members of an object stay in order and can
repeat, and a number is its literal. A string can be broken: an escape that
names one half of a surrogate pair alone stands for no text. Such a string can
be skipped, but not read, so a string is an `Option`.
-/

namespace StyleLens

/-- A JSON value. -/
inductive Json where
  | null
  | bool (value : Bool)
  | number (literal : String)
  | string (text : Option String)
  | array (items : List Json)
  | object (members : List (Option String × Json))

namespace Json

instance : Inhabited Json := ⟨null⟩

/-- A string value. -/
def text (s : String) : Json := string (some s)

/-- A natural number. -/
def ofNat (n : Nat) : Json := number (Nat.repr n)

/-- An integer. -/
def ofInt (n : Int) : Json := number (if n < 0 then "-" ++ Nat.repr n.natAbs else Nat.repr n.natAbs)

/-- An object with the given members. -/
def record (members : List (String × Json)) : Json :=
  object (members.map fun (key, value) => (some key, value))

/-- The text of a string. -/
def text? : Json → Option String
  | string s => s
  | _ => none

/-- The value of a boolean. -/
def bool? : Json → Option Bool
  | bool b => some b
  | _ => none

/-- The items of an array. -/
def items? : Json → Option (List Json)
  | array items => some items
  | _ => none

/-- The value of a number written with digits only. -/
def nat? : Json → Option Nat
  | number literal =>
    let digits := literal.toList
    if digits ≠ [] ∧ digits.all Char.isDigit then
      some (digits.foldl (fun n c => n * 10 + (c.toNat - '0'.toNat)) 0)
    else none
  | _ => none

/-- The value of a number written with digits, after a minus sign or not. -/
def int? : Json → Option Int
  | number literal =>
    match literal.toList with
    | '-' :: digits => (nat? (number (String.ofList digits))).map fun n => -(n : Int)
    | _ => (nat? (number literal)).map Int.ofNat
  | _ => none

/-- The value of an integer from `lo` to `hi`. -/
def intWithin? (lo hi : Int) (v : Json) : Option Int :=
  v.int?.filter fun n => lo ≤ n && n ≤ hi

/-- The first member of an object under a key. -/
def get? (key : String) : Json → Option Json
  | object members => (members.find? (·.1 = some key)).map Prod.snd
  | _ => none

end Json

end StyleLens
