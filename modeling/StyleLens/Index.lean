/-!
# Keyed collections

A finite map as a list of keys with values, each key at most once. An entry
keeps its place when its value is replaced, and a new key goes to the end.

* `get?_insert`, `get?_erase`: what a look-up finds after each change;
* `isSome_get?_iff`: the keys are what a look-up finds something under;
* `keys_insert`: inserting adds a key only if it is new, which the size counts.
-/

namespace StyleLens

/-- A list of pairs with the value under a key replaced, or added at the end. -/
def assign {κ ν : Type} [DecidableEq κ] (k : κ) (v : ν) : List (κ × ν) → List (κ × ν)
  | [] => [(k, v)]
  | (k', v') :: rest => if k' = k then (k, v) :: rest else (k', v') :: assign k v rest

/-- The value under a key in a list of pairs. -/
def valueOf? {κ ν : Type} [DecidableEq κ] (k : κ) : List (κ × ν) → Option ν
  | [] => none
  | (k', v) :: rest => if k' = k then some v else valueOf? k rest

theorem map_fst_assign {κ ν : Type} [DecidableEq κ] (k : κ) (v : ν) (entries : List (κ × ν)) :
    (assign k v entries).map Prod.fst =
      if k ∈ entries.map Prod.fst then entries.map Prod.fst else entries.map Prod.fst ++ [k] := by
  induction entries with
  | nil => simp [assign]
  | cons e rest ih =>
    obtain ⟨k', v'⟩ := e
    by_cases h : k' = k
    · subst h; simp [assign]
    · have h' : k ≠ k' := fun he => h he.symm
      by_cases hm : k ∈ rest.map Prod.fst <;> simp_all [assign]

/-- A finite map from keys of type `κ` to values of type `ν`. -/
structure Index (κ ν : Type) where
  entries : List (κ × ν)
  /-- A key occurs once. -/
  nodup : (entries.map Prod.fst).Nodup

namespace Index

variable {κ ν : Type}

/-- The map without keys. -/
def empty : Index κ ν := ⟨[], by simp⟩

/-- The keys in order. -/
def keys (m : Index κ ν) : List κ := m.entries.map Prod.fst

/-- The number of keys. -/
def size (m : Index κ ν) : Nat := m.entries.length

variable [DecidableEq κ]

/-- The value under a key. -/
def get? (m : Index κ ν) (k : κ) : Option ν := valueOf? k m.entries

/-- The map with a value under a key, which replaces the one that was there. -/
def insert (m : Index κ ν) (k : κ) (v : ν) : Index κ ν where
  entries := assign k v m.entries
  nodup := by
    rw [map_fst_assign]
    split
    · exact m.nodup
    · next h =>
      refine List.nodup_append.2 ⟨m.nodup, by simp, ?_⟩
      intro a ha b hb he
      obtain rfl : b = k := by simpa using hb
      exact h (he ▸ ha)

/-- The map without a key. -/
def erase (m : Index κ ν) (k : κ) : Index κ ν where
  entries := m.entries.filter (·.1 ≠ k)
  nodup := m.nodup.sublist (List.filter_sublist.map _)

/-- The map with all entries of another one, which replace its own. -/
def merge (m other : Index κ ν) : Index κ ν :=
  other.entries.foldl (fun m e => m.insert e.1 e.2) m

/-! ### Look-ups -/

theorem valueOf?_assign (k : κ) (v : ν) (entries : List (κ × ν)) (k' : κ) :
    valueOf? k' (assign k v entries) = if k = k' then some v else valueOf? k' entries := by
  induction entries with
  | nil => simp [assign, valueOf?]
  | cons e rest ih =>
    obtain ⟨a, b⟩ := e
    by_cases ha : a = k
    · subst ha; by_cases h : a = k' <;> simp [assign, valueOf?, h]
    · by_cases h : k = k' <;> by_cases h' : a = k' <;> simp_all [assign, valueOf?]

/-- After an insertion, a key has the value inserted under it. -/
@[simp]
theorem get?_insert (m : Index κ ν) (k : κ) (v : ν) (k' : κ) :
    (m.insert k v).get? k' = if k = k' then some v else m.get? k' :=
  valueOf?_assign k v m.entries k'

theorem valueOf?_filter (entries : List (κ × ν)) (k k' : κ) :
    valueOf? k' (entries.filter (·.1 ≠ k)) = if k = k' then none else valueOf? k' entries := by
  induction entries with
  | nil => simp [valueOf?]
  | cons e rest ih =>
    obtain ⟨a, b⟩ := e
    by_cases ha : a = k
    · subst ha
      by_cases h : a = k' <;> simp_all [valueOf?]
    · by_cases h : k = k' <;> by_cases h' : a = k' <;> simp_all [valueOf?]

/-- After an erasure, the key has no value and the others have theirs. -/
@[simp]
theorem get?_erase (m : Index κ ν) (k k' : κ) :
    (m.erase k).get? k' = if k = k' then none else m.get? k' :=
  valueOf?_filter m.entries k k'

theorem isSome_valueOf?_iff (k : κ) (entries : List (κ × ν)) :
    (valueOf? k entries).isSome ↔ k ∈ entries.map Prod.fst := by
  induction entries with
  | nil => simp [valueOf?]
  | cons e rest ih =>
    rw [valueOf?, List.map_cons, List.mem_cons]
    split
    · next h => exact ⟨fun _ => .inl h.symm, fun _ => rfl⟩
    · next h => rw [ih, or_iff_right fun he => h he.symm]

/-- A look-up finds something under the keys only. -/
theorem isSome_get?_iff (m : Index κ ν) (k : κ) : (m.get? k).isSome ↔ k ∈ m.keys :=
  isSome_valueOf?_iff k m.entries

/-- The keys after an insertion. -/
theorem keys_insert (m : Index κ ν) (k : κ) (v : ν) :
    (m.insert k v).keys = if k ∈ m.keys then m.keys else m.keys ++ [k] :=
  map_fst_assign k v m.entries

end Index

end StyleLens
