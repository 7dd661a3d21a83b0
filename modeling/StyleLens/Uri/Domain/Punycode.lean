/-!
# Punycode

How a label with characters outside of ASCII is written in ASCII: first its
ASCII characters and a hyphen, then where the others go. The others are put in
one by one, in order of their code points and then of their places, and each
step is written as the number of places that were passed over. Numbers are
written in base 36 with digits whose weights depend on the steps so far.
-/

namespace StyleLens.Domain.Punycode

/-- The letter or digit for a number below 36. -/
def digit (n : Nat) : Char := if n < 26 then Char.ofNat (0x61 + n) else Char.ofNat (0x16 + n)

/-- The number that a small letter or a digit stands for. -/
def digit? (c : Char) : Option Nat :=
  if 'a' ≤ c ∧ c ≤ 'z' then some (c.toNat - 0x61)
  else if '0' ≤ c ∧ c ≤ '9' then some (c.toNat - 0x16)
  else none

/-- The least value of a digit that is not the last one, at place `k` in steps of
    36, under a bias. -/
def threshold (bias k : Nat) : Nat := max 1 (min 26 (k - bias))

theorem threshold_pos (bias k : Nat) : 1 ≤ threshold bias k := Nat.le_max_left _ _

theorem threshold_le (bias k : Nat) : threshold bias k ≤ 26 := by
  unfold threshold
  omega

/-- A number scaled down for the bias, and how often it was. -/
def scale (delta : Nat) : Nat × Nat :=
  if 455 < delta then
    let (rest, times) := scale (delta / 35)
    (rest, times + 1)
  else (delta, 0)
termination_by delta
decreasing_by omega

/-- The bias after a step of `delta`, when there are `count` characters. -/
def bias (delta count : Nat) (first : Bool) : Nat :=
  let delta := if first then delta / 700 else delta / 2
  let (rest, times) := scale (delta + delta / count)
  36 * times + 36 * rest / (rest + 38)

/-! ### Writing -/

/-- The digits of a number from place `k` on. -/
def digits (bias k n : Nat) : List Char :=
  let t := threshold bias k
  if n < t then [digit n]
  else digit (t + (n - t) % (36 - t)) :: digits bias (k + 36) ((n - t) / (36 - t))
termination_by n
decreasing_by
  have h₁ := threshold_pos bias k
  have h₂ := threshold_le bias k
  have h₃ := Nat.div_le_self (n - threshold bias k) (36 - threshold bias k)
  omega

/-- The state of writing: what is written, the places passed over since the last
    step, the bias, and the number of characters that are in. -/
structure Writer where
  written : List Char
  delta : Nat
  bias : Nat
  count : Nat

/-- One character of the label passed over, while the code point `n` is put in. -/
def Writer.pass (basic n : Nat) (w : Writer) (c : Nat) : Writer :=
  if c < n then ⟨w.written, w.delta + 1, w.bias, w.count⟩
  else if c = n then
    ⟨w.written ++ digits w.bias 36 w.delta, 0,
      Punycode.bias w.delta (w.count + 1) (w.count = basic), w.count + 1⟩
  else w

/-- The code points of a list put in one after the other; `n` is the least one
    that is not in. -/
def Writer.put (label : List Nat) (basic : Nat) (w : Writer) (n : Nat) : List Nat → Writer
  | [] => w
  | c :: rest =>
    let reached : Writer := ⟨w.written, w.delta + (c - n) * (w.count + 1), w.bias, w.count⟩
    let passed := label.foldl (Writer.pass basic c) reached
    put label basic ⟨passed.written, passed.delta + 1, passed.bias, passed.count⟩ (c + 1) rest

/-- The ASCII form of a label. -/
def encode (label : List Nat) : List Char :=
  let basic := (label.filter (· < 0x80)).map Char.ofNat
  let others := ((label.filter (0x80 ≤ ·)).mergeSort (· ≤ ·)).eraseReps
  let head := if basic.isEmpty then [] else basic ++ ['-']
  head ++ (Writer.put label basic.length ⟨[], 0, 72, basic.length⟩ 0x80 others).written

/-! ### Reading -/

/-- The state of reading: the label so far, the last code point put in, the place
    after it, and the number that is being read: its value so far with the
    place, the weight of its next digit and the place `k` of that digit. -/
structure Reader where
  label : List Nat
  last : Nat
  place : Nat
  value : Nat
  weight : Nat
  k : Nat
  bias : Nat

/-- One more digit. A code point that is too great or half of a surrogate pair
    is none. -/
def Reader.step (r : Reader) (c : Char) : Option Reader := do
  let d ← digit? c
  let value := r.value + d * r.weight
  let t := threshold r.bias r.k
  if d < t then
    let count := r.label.length + 1
    let n := r.last + value / count
    let i := value % count
    if 0x10FFFF < n ∨ (0xD800 ≤ n ∧ n ≤ 0xDFFF) then none
    else
      some ⟨r.label.take i ++ n :: r.label.drop i, n, i + 1, i + 1, 1, 36,
        Punycode.bias (value - r.place) count (r.place = 0)⟩
  else some ⟨r.label, r.last, r.place, value, r.weight * (36 - t), r.k + 36, r.bias⟩

/-- The label with an ASCII form. -/
def decode? (ascii : List Char) : Option (List Nat) := do
  let tail := (ascii.reverse.takeWhile (· ≠ '-')).reverse
  let basic := (ascii.take (ascii.length - tail.length - 1)).map Char.toNat
  let r ← tail.foldlM Reader.step ⟨basic, 0x80, 0, 0, 1, 36, 72⟩
  if r.k = 36 ∧ basic.all (· < 0x80) then some r.label else none

end StyleLens.Domain.Punycode
