import Mathlib.Data.List.Basic
import StyleLens.Markdown

/-!
# Marks of markdown in a text

A text that is not rendered should not show the marks of markdown
(`Markdown.Marked`): an opening bracket, a backtick, or a closing bracket with a
parenthesis right behind it. A markdown text that was turned into plain text has
none of them, nor any bracket (`Markdown.isPlain_toPlain`).

A text that is put together from pieces is marked if one of the pieces is, as long as
no closing bracket meets a parenthesis where two pieces meet. A plain piece that does
not start with a parenthesis keeps its neighbours apart (`Markdown.IsSpacer`,
`Markdown.marked_spaced`).
-/

namespace StyleLens.Markdown

variable {c : Char} {x y sep cs : List Char}

/-- Whether a text shows a mark of markdown. -/
def Marked (cs : List Char) : Prop := '[' ∈ cs ∨ '\x60' ∈ cs ∨ [']', '('] <:+: cs

instance (cs : List Char) : Decidable (Marked cs) := inferInstanceAs (Decidable (_ ∨ _ ∨ _))

/-- Whether a text has no bracket and no backtick. -/
def IsPlain (cs : List Char) : Prop := '[' ∉ cs ∧ ']' ∉ cs ∧ '\x60' ∉ cs

instance (cs : List Char) : Decidable (IsPlain cs) := inferInstanceAs (Decidable (_ ∧ _ ∧ _))

/-! ### Plain text -/

theorem not_mem_unmark (cs : List Char) : '\x60' ∉ unmark cs := by
  fun_induction unmark cs with
  | case1 cs ih => exact ih
  | case2 cs ih => exact ih
  | case3 cs ih => exact ih
  | case4 c cs hc _ _ ih => exact List.not_mem_cons_of_ne_of_not_mem (Ne.symm hc) ih
  | case5 => exact List.not_mem_nil

/-- Unescaping adds no character. -/
theorem unescape_sublist (cs : List Char) : (unescape cs).Sublist cs := by
  fun_induction unescape cs with
  | case1 c cs _ ih => exact (ih.cons_cons c).cons _
  | case2 c cs _ ih => exact ih.cons_cons _
  | case3 c cs _ ih => exact ih.cons_cons c
  | case4 => exact List.Sublist.slnil

/-- What was turned into plain text is plain. -/
theorem isPlain_toPlain (text : String) : IsPlain (toPlain text).toList := by
  rw [toPlain, String.toList_ofList, unbracket]
  refine ⟨fun h => ?_, fun h => ?_, fun h => ?_⟩
  · simpa using List.of_mem_filter h
  · simpa using List.of_mem_filter h
  · exact not_mem_unmark _ ((unescape_sublist _).mem (List.mem_of_mem_filter h))

theorem IsPlain.append (hx : IsPlain x) (hy : IsPlain y) : IsPlain (x ++ y) := by
  obtain ⟨hx₁, hx₂, hx₃⟩ := hx
  obtain ⟨hy₁, hy₂, hy₃⟩ := hy
  exact ⟨List.not_mem_append hx₁ hy₁, List.not_mem_append hx₂ hy₂, List.not_mem_append hx₃ hy₃⟩

theorem IsPlain.not_marked (h : IsPlain cs) : ¬Marked cs := by
  rintro (hopen | htick | hclose)
  · exact h.1 hopen
  · exact h.2.2 htick
  · exact h.2.1 (hclose.subset List.mem_cons_self)

/-! ### Pieces -/

/-- A text of two pieces is marked if one of them is, unless a closing bracket and a
    parenthesis meet between them. -/
theorem marked_append (h : ']' ∉ x ∨ y.head? ≠ some '(') :
    Marked (x ++ y) ↔ Marked x ∨ Marked y := by
  have hapart : ¬∃ l₁ l₂, l₁ ≠ [] ∧ l₂ ≠ [] ∧ [']', '('] = l₁ ++ l₂ ∧ l₁ <:+ x ∧ l₂ <+: y := by
    rintro ⟨l₁, l₂, hl₁, hl₂, hl, hx, hy⟩
    obtain ⟨a, l₁, rfl⟩ := List.exists_cons_of_ne_nil hl₁
    obtain ⟨b, l₂, rfl⟩ := List.exists_cons_of_ne_nil hl₂
    obtain ⟨rfl, htail⟩ := List.cons.inj hl
    obtain ⟨rfl, rfl⟩ : l₁ = [] ∧ '(' = b := by
      cases l₁ with
      | nil => exact ⟨rfl, (List.cons.inj htail).1⟩
      | cons d l₁ => simp at htail
    obtain ⟨rest, rfl, -⟩ := List.cons_prefix_iff.1 hy
    rcases h with hclose | hopen
    · exact hclose (hx.subset List.mem_cons_self)
    · exact hopen rfl
  rw [Marked, Marked, Marked, List.mem_append, List.mem_append, List.infix_append_iff_ne_nil,
    or_iff_left hapart]
  tauto

/-- A plain piece in front adds no mark. -/
theorem IsPlain.marked_append (hx : IsPlain x) : Marked (x ++ y) ↔ Marked y := by
  rw [Markdown.marked_append (.inl hx.2.1), or_iff_right hx.not_marked]

/-- Whether a text keeps the pieces around it apart: it is plain, and does not start with a
    parenthesis. -/
def IsSpacer (sep : List Char) : Prop := IsPlain sep ∧ sep.head?.any (· ≠ '(')

instance (sep : List Char) : Decidable (IsSpacer sep) := inferInstanceAs (Decidable (_ ∧ _))

theorem marked_spaced (hsep : IsSpacer sep) : Marked (x ++ sep ++ y) ↔ Marked x ∨ Marked y := by
  obtain ⟨hplain, hhead⟩ := hsep
  have hopen : (sep ++ y).head? ≠ some '(' := by
    cases sep with
    | nil => simp at hhead
    | cons c sep => simpa using hhead
  rw [List.append_assoc, marked_append (.inr hopen), hplain.marked_append]

/-- Pieces with spacers between them are marked if one of them is. -/
theorem marked_intercalate (hsep : IsSpacer sep) (pieces : List (List Char)) :
    Marked (sep.intercalate pieces) ↔ ∃ piece ∈ pieces, Marked piece := by
  induction pieces with
  | nil => simp [Marked]
  | cons piece pieces ih =>
    cases pieces with
    | nil => simp
    | cons next pieces =>
      rw [List.intercalate_cons_cons, marked_spaced hsep, ih]
      exact (List.exists_mem_cons_iff ..).symm

end StyleLens.Markdown
