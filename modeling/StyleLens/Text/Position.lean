import StyleLens.Text.Measure

/-!
# Positions in a text

Three ways to name a place in a text: a byte of its UTF-8 form, an offset in
UTF-16 code units, and a position, which is a line with a column in UTF-16 code
units on it. Only a line feed starts a new line. A column ends at the first
carriage return or line feed of its line.

* `byteOfOffset?` and `offsetOfByte` go between offsets and bytes: an offset
  inside a surrogate pair is the start of its character, and a byte inside a
  character is the start of it;
* `lineStarts` is the index of lines, `lineOfByte` looks a byte up in it;
* `positionOfByte` and `byteOfPosition?` go between positions and bytes: a column
  past the end of its line is the end of the line, and only a line that does
  not exist has no byte.
-/

namespace StyleLens

/-- A place in a text, by line and by UTF-16 column, both counted from zero in
    32 bits. -/
structure Position where
  line : UInt32
  character : UInt32
  deriving DecidableEq

/-- A stretch of text between two positions. -/
structure Range where
  start : Position
  stop : Position
  deriving DecidableEq

/-- A place in a text, by row and by column in bytes. -/
structure Point where
  row : Nat
  column : Nat
  deriving DecidableEq

namespace Text

/-! ### Offsets -/

/-- The byte at a UTF-16 offset, counted along the characters. -/
def seekOffset? : List Char → Nat → Option Nat
  | [], o => if o = 0 then some 0 else none
  | c :: cs, o =>
    if o < charUnits c then some 0
    else (seekOffset? cs (o - charUnits c)).map (c.utf8Size + ·)

/-- The byte at UTF-16 offset `o` of `s`: none past the end, and the start of
    the character for an offset inside a surrogate pair. -/
def byteOfOffset? (s : String) (o : Nat) : Option Nat := seekOffset? s.toList o

/-- The UTF-16 offset of byte `b` of `s`, which is rounded down to a character
    boundary of `s`. -/
def offsetOfByte (s : String) (b : Nat) : Nat := unitLength (takeBytes b s.toList)

/-- The length of `s` in UTF-16 code units. -/
def units (s : String) : Nat := unitLength s.toList

/-! ### Lines -/

/-- The bytes that follow a line feed, in a text that starts at byte `b`. -/
def startsAfter (b : Nat) : List Char → List Nat
  | [] => []
  | c :: cs =>
    let next := b + c.utf8Size
    if c = '\n' then next :: startsAfter next cs else startsAfter next cs

/-- The first byte of every line of a text. -/
def lineStarts (cs : List Char) : List Nat := 0 :: startsAfter 0 cs

/-- The number of lines of `s`; an empty text has one. -/
def lineCount (s : String) : Nat := (lineStarts s.toList).length

/-- The last line of an index of lines that starts at or before byte `b`. -/
def lineOfByte (starts : List Nat) (b : Nat) : Nat := (starts.takeWhile (· ≤ b)).length - 1

/-! ### Positions -/

/-- The position of byte `b` of `s`, which is rounded down to a character
    boundary of `s`. -/
def positionOfByte (s : String) (b : Nat) : Position :=
  let cs := s.toList
  let b := floorByte cs b
  let starts := lineStarts cs
  let line := lineOfByte starts b
  ⟨.ofNat line, .ofNat (unitLength (sliceBytes cs (starts.getD line 0) b))⟩

/-- The bytes in front of UTF-16 column `n` on a line: the walk along the line
    ends at the column, at a line break or at the end of the line. -/
def seekColumn : List Char → Nat → Nat
  | [], _ => 0
  | c :: cs, n =>
    if n = 0 ∨ c = '\n' ∨ c = '\r' then 0 else c.utf8Size + seekColumn cs (n - charUnits c)

/-- The byte at position `p` of `s`: none if the line does not exist, and the end
    of the line for a column past it. -/
def byteOfPosition? (s : String) (p : Position) : Option Nat :=
  let cs := s.toList
  let starts := lineStarts cs
  starts[p.line.toNat]?.map fun start =>
    let stop := starts.getD (p.line.toNat + 1) (byteLength cs)
    start + seekColumn (sliceBytes cs start stop) p.character.toNat

/-- The UTF-16 offset of a position. -/
def offsetOfPosition? (s : String) (p : Position) : Option Nat :=
  (byteOfPosition? s p).map (offsetOfByte s)

/-- The position of a UTF-16 offset. -/
def positionOfOffset? (s : String) (o : Nat) : Option Position :=
  (byteOfOffset? s o).map (positionOfByte s)

/-- The range between two bytes. -/
def rangeOfBytes (s : String) (i j : Nat) : Range := ⟨positionOfByte s i, positionOfByte s j⟩

/-- The point of byte `b` of `s`, or of its end for a byte past it. -/
def pointOfByte (s : String) (b : Nat) : Point :=
  let cs := s.toList
  let b := min b (byteLength cs)
  let starts := lineStarts cs
  let row := lineOfByte starts b
  ⟨row, b - starts.getD row 0⟩

end Text

end StyleLens
