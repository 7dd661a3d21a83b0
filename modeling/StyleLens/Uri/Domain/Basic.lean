import StyleLens.Text.Basic
import StyleLens.Uri.Domain.Composition
import StyleLens.Uri.Domain.Direction
import StyleLens.Uri.Domain.Ideographs
import StyleLens.Uri.Domain.Joiner
import StyleLens.Uri.Domain.Letters
import StyleLens.Uri.Domain.Punycode
import StyleLens.Uri.Domain.Refused
import StyleLens.Uri.Domain.Spelling

/-!
# Domain names

The ASCII form of a domain name in any script (`toAscii?`). Characters are
replaced by the plain ones that they stand for, the name is put in composed
form, and each label with characters outside of ASCII is written in Punycode
after `xn--`. A label that is in that form already must be one that can be
written so.
-/

namespace StyleLens.Domain

/-- The code points that a code point above ASCII stands for, if it is not
    refused. -/
def replacement? (c : Nat) : Option (List Nat) :=
  if within refusedRanges c then none
  else if within ignoredRanges c then some []
  else
    let paired := pairedRanges.any fun (lo, hi) => lo ≤ c && c ≤ hi && (c - lo) % 2 == 0
    if paired then some [c + 1]
    else
      let found :=
        ((shiftedRanges.find? fun (lo, hi, _) => lo ≤ c && c ≤ hi).map
            fun (lo, _, target) => [target + (c - lo)]) <|>
        ((loneLetters.find? fun (a, _) => a = c).map fun (_, target) => [target]) <|>
        ((listedLetters.find? fun (lo, targets) => lo ≤ c && c < lo + targets.length).bind
            fun (lo, targets) => (targets[c - lo]?).map fun target => [target]) <|>
        ((spelledFirst.find? fun (a, _) => a = c).map Prod.snd) <|>
        ((spelledSecond.find? fun (a, _) => a = c).map Prod.snd)
      some (found.getD [c])

/-- The code points that a character stands for. -/
def mapped? (c : Char) : Option (List Nat) :=
  if c.toNat < 0x80 then some [c.toLower.toNat] else replacement? c.toNat

/-- The ASCII characters that no domain name has. -/
def isForbidden (c : Nat) : Bool :=
  c ≤ 0x20 || c = 0x7F || "%#/:<>?@[\\]^|".toList.any fun d => d.toNat = c

/-- Whether a label with characters outside of ASCII can be in a domain name: it
    is in composed form, starts with no mark, and its characters stand for
    themselves. -/
def isLabel (label : List Nat) : Bool :=
  composed label = label && !(label.head?.any isMark) &&
    (label.all fun c => c < 0x80 || replacement? c = some [c]) && joinersCount [] label

/-- How a label in its ASCII form starts. -/
def asciiHead : List Char := "xn--".toList

/-- A label in its own characters and in its ASCII form. -/
def readLabel? (label : List Nat) : Option (List Nat × List Char) :=
  if label.all (· < 0x80) then
    let ascii := label.map Char.ofNat
    match Text.dropHead? asciiHead ascii with
    | none => some (label, ascii)
    | some code => do
      let label ← Punycode.decode? code
      if label.all (· < 0x80) || !isLabel label then none else some (label, ascii)
  else if Text.dropHead? asciiHead (label.map Char.ofNat) = none ∧ isLabel label then
    some (label, asciiHead ++ Punycode.encode label)
  else none

/-- The ASCII form of a domain name. -/
def toAscii? (name : List Char) : Option (List Char) := do
  let replaced ← name.mapM mapped?
  let labels ← ((composed replaced.flatten).splitOnP (· = 0x2E)).mapM readLabel?
  let directions := labels.map fun (label, _) => label.map direction
  let fits := !(directions.any hasRight) || directions.all keepsDirection
  if fits ∧ labels.all (fun (label, _) => !label.any isForbidden) then
    some (List.intercalate ['.'] (labels.map Prod.snd))
  else none

end StyleLens.Domain
