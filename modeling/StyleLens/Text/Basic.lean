/-!
# Characters, digits and names

The small character rules that names and descriptions are read by. Blank is the
Unicode property `White_Space`; letter case is that of ASCII only, since names
of stylesheets fold no other letters.

Vendors try constructs out under names with a mark of their own in front, such
as `-webkit-any`. The name without the mark is that of the construct
(`unmarked?`).
-/

namespace StyleLens

namespace Text

/-- The characters with the Unicode property `White_Space`, as ranges of code points. -/
def blankRanges : List (Nat × Nat) :=
  [(0x09, 0x0D), (0x20, 0x20), (0x85, 0x85), (0xA0, 0xA0), (0x1680, 0x1680),
    (0x2000, 0x200A), (0x2028, 0x2029), (0x202F, 0x202F), (0x205F, 0x205F), (0x3000, 0x3000)]

/-- Whether a character is white space. -/
def isBlank (c : Char) : Bool := blankRanges.any fun (lo, hi) => lo ≤ c.toNat && c.toNat ≤ hi

/-- A text without the blanks at its two ends. -/
def trim (cs : List Char) : List Char :=
  ((cs.dropWhile isBlank).reverse.dropWhile isBlank).reverse

/-- A text with its ASCII capitals turned small. -/
def lower (cs : List Char) : List Char := cs.map Char.toLower

/-- What follows the head `p` of a text, if the text starts with it. -/
def dropHead? : List Char → List Char → Option (List Char)
  | [], s => some s
  | _ :: _, [] => none
  | c :: p, d :: s => if c = d then dropHead? p s else none

/-- A text starts with `p` exactly when it is `p` and then what is left. -/
theorem dropHead?_eq_some_iff {p s r : List Char} : dropHead? p s = some r ↔ s = p ++ r := by
  induction p generalizing s with
  | nil => simp [dropHead?]
  | cons c p ih =>
    cases s with
    | nil => simp [dropHead?]
    | cons d s => by_cases h : c = d <;> simp [dropHead?, h, ih, eq_comm]

/-! ### Digits -/

/-- The value of a hexadecimal digit. -/
def hexDigit? (c : Char) : Option Nat :=
  if c.isDigit then some (c.toNat - '0'.toNat)
  else if 'a' ≤ c ∧ c ≤ 'f' then some (c.toNat - 'a'.toNat + 10)
  else if 'A' ≤ c ∧ c ≤ 'F' then some (c.toNat - 'A'.toNat + 10)
  else none

/-- The value of a number in a base of at most 16. No digits stand for 0. -/
def number? (base : Nat) (digits : List Char) : Option Nat :=
  digits.foldlM (fun n c => ((hexDigit? c).filter (· < base)).map (n * base + ·)) 0

end Text

/-! ### Names with a vendor's mark -/

/-- The marks that vendors put in front of names of their own. -/
def vendorMarks : List String := ["-webkit-", "-moz-", "-ms-", "-o-"]

/-- What follows a vendor's mark in a name, if the name has one. -/
def unmarked? (name : List Char) : Option (List Char) :=
  vendorMarks.findSome? fun mark => Text.dropHead? mark.toList name

end StyleLens
