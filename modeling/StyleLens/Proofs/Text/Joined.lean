import Mathlib.Data.List.Basic

/-!
# Joined texts

Texts that are joined by a separator. Where none of the texts is empty, neither is what they
are joined to (`intercalate_eq_empty_iff`). An empty text among others shows as one more separator
(`length_intercalate_insert`).
-/

namespace StyleLens.Text

variable {front back texts : List String}

/-- Texts that are not empty join to nothing only if there are none. -/
theorem intercalate_eq_empty_iff (h : ∀ t ∈ texts, t ≠ "") (sep : String) :
    sep.intercalate texts = "" ↔ texts = [] := by
  cases texts with
  | nil => simp
  | cons t rest =>
    have ht : t ≠ "" := h t List.mem_cons_self
    cases rest with
    | nil => simpa using ht
    | cons u rest => simp [String.intercalate_cons_cons, String.append_eq_empty_iff, ht]

/-- An empty text among others adds the length of a separator. -/
theorem length_intercalate_insert (h : front ++ back ≠ []) (sep : String) :
    (sep.intercalate (front ++ "" :: back)).length =
      (sep.intercalate (front ++ back)).length + sep.length := by
  -- The empty text parts from what is on either side of it, if there is something.
  have hback : back ≠ [] → (sep.intercalate ("" :: back)).length =
      (sep.intercalate back).length + sep.length := by
    intro hback
    rw [String.intercalate_cons_of_ne_nil hback, String.length_append, String.length_append,
      String.length_empty]
    omega
  by_cases hfront : front = []
  · subst hfront
    exact hback h
  · rw [String.intercalate_append_of_ne_nil hfront (List.cons_ne_nil "" back), String.length_append,
      String.length_append]
    by_cases hnil : back = []
    · subst hnil
      simp
    · rw [hback hnil, String.intercalate_append_of_ne_nil hfront hnil, String.length_append,
        String.length_append]
      omega

end StyleLens.Text
