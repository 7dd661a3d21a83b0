/-!
# Measures of text

A text is a sequence of characters, and three clients count it in three ways:
a syntax tree counts the bytes of its UTF-8 form, an editor counts UTF-16 code
units, and a reader counts characters. This module measures a sequence of
characters in bytes and in units, and cuts it at a number of bytes.

* `takeBytes`, `dropBytes`: the longest whole-character head of at most a number
  of bytes, and what follows it; together they are the text
  (`takeBytes_append_dropBytes`);
* `floorByte`: the last character boundary at or before a byte;
* `slice?`: the text between two bytes, if both are boundaries.
-/

namespace StyleLens.Text

/-- The UTF-16 code units of a character: two (a surrogate pair) outside the
    basic plane, one inside it. -/
def charUnits (c : Char) : Nat := if c.toNat < 0x10000 then 1 else 2

/-- The length of a text in UTF-8 bytes. -/
def byteLength : List Char → Nat
  | [] => 0
  | c :: cs => c.utf8Size + byteLength cs

/-- The length of a text in UTF-16 code units. -/
def unitLength : List Char → Nat
  | [] => 0
  | c :: cs => charUnits c + unitLength cs

/-- The longest head of whole characters that has at most `n` bytes. -/
def takeBytes : Nat → List Char → List Char
  | _, [] => []
  | n, c :: cs => if c.utf8Size ≤ n then c :: takeBytes (n - c.utf8Size) cs else []

/-- What follows the longest head of whole characters that has at most `n` bytes. -/
def dropBytes : Nat → List Char → List Char
  | _, [] => []
  | n, c :: cs => if c.utf8Size ≤ n then dropBytes (n - c.utf8Size) cs else c :: cs

/-- Cutting loses nothing. -/
@[simp]
theorem takeBytes_append_dropBytes (n : Nat) (cs : List Char) :
    takeBytes n cs ++ dropBytes n cs = cs := by
  induction cs generalizing n with
  | nil => rfl
  | cons c cs ih => by_cases h : c.utf8Size ≤ n <;> simp [takeBytes, dropBytes, h, ih]

/-- The last character boundary at or before byte `b`; past the end, the end. -/
def floorByte (cs : List Char) (b : Nat) : Nat := byteLength (takeBytes b cs)

/-- Whether byte `b` lies between two characters, or at an end of the text. -/
def IsBoundary (cs : List Char) (b : Nat) : Prop := floorByte cs b = b

instance (cs : List Char) (b : Nat) : Decidable (IsBoundary cs b) :=
  inferInstanceAs (Decidable (floorByte cs b = b))

/-- The characters from byte `i` to byte `j`, rounded down to whole characters. -/
def sliceBytes (cs : List Char) (i j : Nat) : List Char := takeBytes (j - i) (dropBytes i cs)

/-- The part of `s` from byte `i` up to byte `j`. There is none if the bytes are
    out of order, past the end or inside a character. -/
def slice? (s : String) (i j : Nat) : Option String :=
  let cs := s.toList
  if i ≤ j ∧ IsBoundary cs i ∧ IsBoundary cs j then some (String.ofList (sliceBytes cs i j))
  else none

end StyleLens.Text
