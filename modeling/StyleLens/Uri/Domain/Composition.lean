import StyleLens.Uri.Domain.Mark
import StyleLens.Uri.Domain.Pairs

/-!
# Composed form

One letter can be written in two ways: by itself, or as a plain letter with
marks after it. In composed form a text is written in one way: letters are
taken apart (`decompose`), the marks on each letter are put in order (`arrange`),
and letters are put together again with the marks that they combine with
(`compose`).
-/

namespace StyleLens.Domain

/-! ### Syllables of Hangul -/

/-- The letter and the mark that a syllable of Hangul is made of. -/
def hangulParts? (c : Nat) : Option (Nat × Nat) :=
  if 0xAC00 ≤ c ∧ c ≤ 0xD7A3 then
    let i := c - 0xAC00
    if i % 28 = 0 then some (0x1100 + i / 588, 0x1161 + i % 588 / 28)
    else some (c - i % 28, 0x11A7 + i % 28)
  else none

/-- The syllable of Hangul that is made of two parts. -/
def hangulWhole? (a b : Nat) : Option Nat :=
  if 0x1100 ≤ a ∧ a ≤ 0x1112 ∧ 0x1161 ≤ b ∧ b ≤ 0x1175 then
    some (0xAC00 + (a - 0x1100) * 588 + (b - 0x1161) * 28)
  else if 0xAC00 ≤ a ∧ a ≤ 0xD7A3 ∧ (a - 0xAC00) % 28 = 0 ∧ 0x11A8 ≤ b ∧ b ≤ 0x11C2 then
    some (a + (b - 0x11A7))
  else none

/-! ### Letters and marks -/

/-- The letter and the mark that a code point is made of. -/
def parts? (c : Nat) : Option (Nat × Nat) :=
  match compositePairs.find? fun (whole, _, _) => whole = c with
  | some (_, a, b) => some (a, b)
  | none => hangulParts? c

/-- The code point that is made of a letter and a mark. -/
def whole? (a b : Nat) : Option Nat :=
  match compositePairs.find? fun (_, x, y) => x = a ∧ y = b with
  | some (c, _, _) => some c
  | none => hangulWhole? a b

/-- A code point taken apart, `depth` times at most. -/
def decomposeIn : Nat → Nat → List Nat
  | 0, c => [c]
  | depth + 1, c =>
    match parts? c with
    | some (a, b) => decomposeIn depth a ++ [b]
    | none => [c]

/-- A code point taken apart. No letter has more than four marks. -/
def decompose (c : Nat) : List Nat := decomposeIn 4 c

/-- A code point in front of arranged ones: a mark goes behind those of a smaller
    class. -/
def arrangeOne (c : Nat) : List Nat → List Nat
  | [] => [c]
  | d :: rest =>
    if 0 < combiningClass d ∧ combiningClass d < combiningClass c then d :: arrangeOne c rest
    else c :: d :: rest

/-- Code points with the marks on each letter in order of their classes. -/
def arrange : List Nat → List Nat
  | [] => []
  | c :: rest => arrangeOne c (arrange rest)

/-- Code points put together, where `letter` is the last letter, and `marks` are
    those after it that did not combine, backwards. A mark does not reach the
    letter over one of its own class or a greater one. -/
def composeOn (letter : Nat) (marks : List Nat) : List Nat → List Nat
  | [] => letter :: marks.reverse
  | c :: rest =>
    let reaches := marks.head?.all fun m => combiningClass m < combiningClass c
    match if reaches then whole? letter c else none with
    | some whole => composeOn whole marks rest
    | none =>
      if combiningClass c = 0 then letter :: marks.reverse ++ composeOn c [] rest
      else composeOn letter (c :: marks) rest

/-- Code points put together. Marks in front of all letters stay alone. -/
def compose : List Nat → List Nat
  | [] => []
  | c :: rest => if combiningClass c = 0 then composeOn c [] rest else c :: compose rest

/-- The composed form of a text. -/
def composed (cs : List Nat) : List Nat := compose (arrange (cs.flatMap decompose))

end StyleLens.Domain
