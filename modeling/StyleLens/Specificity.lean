/-!
# Specificity

The weight of a selector: how many ids, how many classes (with attributes and
pseudo-classes) and how many types (with pseudo-elements) it names. Weights
compare lexicographically, ids first. Each count is a 32-bit word and stops at
the greatest one instead of wrapping (`Count.add`).

* `Specificity.sum`: the running sum of a list of weights;
* `Specificity.greatest`: the greatest of a list of weights, zero if it is empty.
-/

namespace StyleLens

namespace Count

/-- The greatest count. -/
def limit : Nat := 4294967295

/-- Addition of counts, which stops at the greatest one. -/
def add (a b : UInt32) : UInt32 := .ofNat (min (a.toNat + b.toNat) limit)

/-- The sum of two counts is that of the naturals, up to the limit. -/
theorem toNat_add (a b : UInt32) : (add a b).toNat = min (a.toNat + b.toNat) limit := by
  have h : min (a.toNat + b.toNat) limit < UInt32.size := by unfold limit UInt32.size; omega
  rw [add, UInt32.toNat_ofNat_of_lt' h]

end Count

/-- The weight of a selector. -/
structure Specificity where
  ids : UInt32
  classes : UInt32
  types : UInt32
  deriving DecidableEq

namespace Specificity

/-- No weight. -/
def zero : Specificity := ⟨0, 0, 0⟩

/-- The weight of an id. -/
def oneId : Specificity := ⟨1, 0, 0⟩

/-- The weight of a class, an attribute or a pseudo-class. -/
def oneClass : Specificity := ⟨0, 1, 0⟩

/-- The weight of a type or a pseudo-element. -/
def oneType : Specificity := ⟨0, 0, 1⟩

instance : Zero Specificity := ⟨zero⟩

/-- Weights add count by count. -/
instance : Add Specificity :=
  ⟨fun a b => ⟨Count.add a.ids b.ids, Count.add a.classes b.classes, Count.add a.types b.types⟩⟩

/-- Weights compare by ids, then by classes, then by types. -/
instance : LT Specificity :=
  ⟨fun a b => a.ids < b.ids ∨ a.ids = b.ids ∧
    (a.classes < b.classes ∨ a.classes = b.classes ∧ a.types < b.types)⟩

instance : LE Specificity := ⟨fun a b => a < b ∨ a = b⟩

instance (a b : Specificity) : Decidable (a < b) :=
  inferInstanceAs (Decidable (a.ids < b.ids ∨ a.ids = b.ids ∧
    (a.classes < b.classes ∨ a.classes = b.classes ∧ a.types < b.types)))

instance (a b : Specificity) : Decidable (a ≤ b) :=
  inferInstanceAs (Decidable (a < b ∨ a = b))

/-- The greater of two weights. -/
instance : Max Specificity := ⟨fun a b => if a ≤ b then b else a⟩

/-- The running sum of some weights. -/
def sum (ws : List Specificity) : Specificity := ws.foldl (· + ·) 0

/-- The sums on the way to the sum of some weights, after each of them. -/
def runningSums (before : Specificity) : List Specificity → List Specificity
  | [] => []
  | w :: ws => (before + w) :: runningSums (before + w) ws

/-- The greatest of some weights, zero if there are none. -/
def greatest (ws : List Specificity) : Specificity := ws.foldl max 0

/-- The text of a weight: `(ids, classes, types)`. -/
def render (w : Specificity) : String :=
  "(" ++ Nat.repr w.ids.toNat ++ ", " ++ Nat.repr w.classes.toNat ++ ", "
    ++ Nat.repr w.types.toNat ++ ")"

end Specificity

end StyleLens
