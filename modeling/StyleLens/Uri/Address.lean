import StyleLens.Text.Basic

/-!
# Numeric addresses

The two sorts of numeric addresses that a host can have. An address of the older
sort is one to four numbers with dots, of which the last one fills what the
others leave (`ofIPv4?`); one of the newer sort is eight groups of four
hexadecimal digits with colons, of which a run of zeros can be left out
(`ofIPv6?`).
-/

namespace StyleLens.Address

/-! ### Four bytes -/

/-- A number of an address: octal after a `0`, hexadecimal after `0x`, and
    decimal otherwise. -/
def number? : List Char → Option Nat
  | [] => none
  | '0' :: 'x' :: digits => Text.number? 16 digits
  | '0' :: 'X' :: digits => Text.number? 16 digits
  | ['0'] => some 0
  | '0' :: digits => Text.number? 8 digits
  | digits => Text.number? 10 digits

/-- The parts of a name between its dots, without the empty one after a dot at
    its end. -/
def parts (name : List Char) : List (List Char) :=
  let all := name.splitOnP (· = '.')
  if 1 < all.length ∧ all.getLast? = some [] then all.dropLast else all

/-- Whether a name ends in a number, and so is an address or nothing. -/
def endsInNumber (name : List Char) : Bool :=
  match (parts name).getLast? with
  | none | some [] => false
  | some last => last.all Char.isDigit || (number? last).isSome

/-- The number of values that some bytes can have. -/
def span : Nat → Nat
  | 0 => 1
  | bytes + 1 => 256 * span bytes

/-- The value of some numbers of one byte each, and a last one that fills what is
    left of `room` bytes. -/
def fill? : Nat → List Nat → Option Nat
  | room, [last] => if 0 < room ∧ last < span room then some last else none
  | room + 1, n :: rest => if n < 256 then (fill? room rest).map (n * span room + ·) else none
  | _, _ => none

/-- The address of four bytes that a name stands for. -/
def ofIPv4? (name : List Char) : Option Nat := do fill? 4 (← (parts name).mapM number?)

/-- An address of four bytes, each one written by itself. -/
def renderIPv4 (address : Nat) : String :=
  ".".intercalate ([3, 2, 1, 0].map fun i => Nat.repr (address / span i % 256))

/-! ### Eight groups -/

/-- A group of one to four hexadecimal digits. -/
def group? (digits : List Char) : Option Nat :=
  if digits.length = 0 ∨ 4 < digits.length then none else Text.number? 16 digits

/-- A byte written in decimal, without zeros in front. -/
def byte? (digits : List Char) : Option Nat :=
  if digits.length = 0 ∨ (digits.head? = some '0' ∧ digits ≠ ['0']) then none
  else (Text.number? 10 digits).filter (· < 256)

/-- The two groups that four bytes with dots stand for. -/
def bytes? (text : List Char) : Option (List Nat) := do
  match ← (text.splitOnP (· = '.')).mapM byte? with
  | [a, b, c, d] => some [a * 256 + b, c * 256 + d]
  | _ => none

/-- Groups of which the last one can be four bytes with dots. -/
def groups? : List (List Char) → Option (List Nat)
  | [] => some []
  | [last] => if last.contains '.' then bytes? last else do pure [← group? last]
  | first :: rest => do pure ((← group? first) :: (← groups? rest))

/-- The text before the first two colons in a row, and the text after them. -/
def cut? : List Char → Option (List Char × List Char)
  | ':' :: ':' :: rest => some ([], rest)
  | c :: rest => (cut? rest).map fun (before, after) => (c :: before, after)
  | [] => none

/-- The groups of an address that a text stands for. -/
def ofIPv6? (text : List Char) : Option (List Nat) := do
  let split (side : List Char) := if side = [] then [] else side.splitOnP (· = ':')
  match cut? text with
  | none =>
    let groups ← groups? (split text)
    if groups.length = 8 then some groups else none
  | some (before, after) =>
    let first ← (split before).mapM group?
    let last ← groups? (split after)
    let zeros := 8 - (first.length + last.length)
    if 0 < zeros then some (first ++ List.replicate zeros 0 ++ last) else none

/-- The length of the longest run of zeros in some groups. -/
def longestZeros : List Nat → Nat
  | [] => 0
  | n :: rest => max ((n :: rest).takeWhile (· = 0)).length (longestZeros rest)

/-- The groups before the first run of at least `length` zeros, and those after
    it. -/
def cutZeros (length : Nat) : List Nat → List Nat × List Nat
  | [] => ([], [])
  | n :: rest =>
    if length ≤ ((n :: rest).takeWhile (· = 0)).length then ([], (n :: rest).drop length)
    else
      let (before, after) := cutZeros length rest
      (n :: before, after)

/-- Some groups with colons between them. -/
def renderGroups (groups : List Nat) : String :=
  ":".intercalate (groups.map fun n => String.ofList (Nat.toDigits 16 n))

/-- An address of eight groups. The first of its longest runs of zeros is left
    out, unless it is one zero. -/
def renderIPv6 (groups : List Nat) : String :=
  let zeros := longestZeros groups
  if zeros < 2 then renderGroups groups
  else
    let (before, after) := cutZeros zeros groups
    renderGroups before ++ "::" ++ renderGroups after

end StyleLens.Address
