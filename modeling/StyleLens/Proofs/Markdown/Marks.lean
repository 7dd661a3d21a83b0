import Mathlib.Data.List.Infix
import StyleLens.Proofs.Markdown

/-!
# What plain text keeps

To turn a markdown text into plain text takes four steps, and each of them reads what the one
before it left. Yet all that a step can do is to take characters away that marks are
made of, and to put spaces in (`Markdown.Strips`). So the rest of the text stays as it is, in the
same order, whatever the marks are and however they are mixed (`Markdown.Strips.prose_eq`).

A text that has nothing to take away is left as it is, and no other text is
(`Markdown.toPlain_eq_self_iff`).
-/

namespace StyleLens.Markdown

variable {c : Char} {cs ds : List Char}

/-- The characters that marks are made of. -/
def markChars : List Char := ['[', ']', '\x60', '*', '_', '\x5c']

/-- Whether a character is neither a space nor one that marks are made of. -/
def isProse (c : Char) : Bool := c ∉ ' ' :: markChars

/-- `Strips cs ds`: `ds` is `cs` with some characters of marks taken away and some spaces
    put in. -/
inductive Strips : List Char → List Char → Prop
  | nil : Strips [] []
  | keep {cs ds : List Char} (c : Char) (h : Strips cs ds) : Strips (c :: cs) (c :: ds)
  | drop {cs ds : List Char} {c : Char} (hc : c ∈ markChars) (h : Strips cs ds) :
      Strips (c :: cs) ds
  | space {cs ds : List Char} (h : Strips cs ds) : Strips cs (' ' :: ds)

namespace Strips

theorem keepAll (h : Strips cs ds) (front : List Char) : Strips (front ++ cs) (front ++ ds) := by
  induction front with
  | nil => exact h
  | cons c front ih => exact ih.keep c

/-- All but spaces and marks stays, in the same order. -/
theorem prose_eq (h : Strips cs ds) : ds.filter isProse = cs.filter isProse := by
  induction h with
  | nil => rfl
  | keep c _ ih => rw [List.filter_cons, List.filter_cons, ih]
  | drop hc _ ih =>
    rw [ih, List.filter_cons_of_neg]
    simp [isProse, hc]
  | space _ ih => rw [List.filter_cons_of_neg (by decide), ih]

/-- Nothing but spaces is put in. -/
theorem sublist (h : Strips cs ds) :
    (ds.filter fun c => c ≠ ' ').Sublist (cs.filter fun c => c ≠ ' ') := by
  induction h with
  | nil => exact List.Sublist.slnil
  | keep c _ ih =>
    rw [List.filter_cons, List.filter_cons]
    split_ifs
    · exact ih.cons_cons c
    · exact ih
  | drop _ _ ih => exact ih.trans ((List.sublist_cons_self ..).filter _)
  | space _ ih => exact ih

end Strips

/-! ### What the steps do -/

theorem strips_unlink (cs : List Char) : Strips cs (unlink cs) := by
  fun_induction unlink cs with
  | case1 => exact .nil
  | case2 cs text address after h _ ih =>
    rw [eq_of_link? h, List.append_assoc]
    have haddress :
        Strips ('(' :: (address ++ ')' :: after)) ('(' :: (address ++ ')' :: unlink after)) :=
      ((ih.keep ')').keepAll address).keep '('
    have hclose := (Strips.space haddress).drop (c := ']') (by decide)
    exact (hclose.keepAll text).drop (by decide)
  | case3 cs _ ih => exact ih.keep _
  | case4 c cs _ ih => exact ih.keep c

theorem strips_unmark (cs : List Char) : Strips cs (unmark cs) := by
  fun_induction unmark cs with
  | case1 cs ih => exact ih.drop (by decide)
  | case2 cs ih => exact (ih.drop (by decide)).drop (by decide)
  | case3 cs ih => exact (ih.drop (by decide)).drop (by decide)
  | case4 c cs _ _ _ ih => exact ih.keep c
  | case5 => exact .nil

theorem strips_unescape (cs : List Char) : Strips cs (unescape cs) := by
  fun_induction unescape cs with
  | case1 c cs _ ih => exact (ih.keep c).drop (by decide)
  | case2 c cs _ ih => exact ih.keep _
  | case3 c cs _ ih => exact ih.keep c
  | case4 => exact .nil

theorem strips_unbracket (cs : List Char) : Strips cs (unbracket cs) := by
  induction cs with
  | nil => exact .nil
  | cons c cs ih =>
    rw [unbracket, List.filter_cons]
    split_ifs with hc
    · exact ih.keep c
    · refine ih.drop ?_
      have hbracket : c = '[' ∨ c = ']' := by simpa [or_iff_not_imp_left] using hc
      rcases hbracket with rfl | rfl <;> decide

/-! ### Texts that are left as they are -/

theorem unlink_eq_self (h : '[' ∉ cs) : unlink cs = cs := by
  induction cs with
  | nil => rw [unlink]
  | cons c cs ih =>
    obtain ⟨hc, hcs⟩ := not_or.1 (mt List.mem_cons.2 h)
    rw [unlink, if_neg (Ne.symm hc), ih hcs]

theorem unmark_sublist (cs : List Char) : (unmark cs).Sublist cs := by
  fun_induction unmark cs with
  | case1 cs ih => exact ih.cons _
  | case2 cs ih => exact (ih.cons _).cons _
  | case3 cs ih => exact (ih.cons _).cons _
  | case4 c cs _ _ _ ih => exact ih.cons_cons c
  | case5 => exact List.Sublist.slnil

/-- Where a character is taken away, the text changes. -/
theorem ne_cons_of_sublist (h : ds.Sublist cs) (c : Char) : ds ≠ c :: cs := by
  rintro rfl
  exact Nat.not_succ_le_self _ h.length_le

/-- Two characters stand side by side at the start of a text or further on in it. -/
theorem pair_infix_cons_iff {a b : Char} :
    [a, b] <:+: c :: cs ↔ a = c ∧ cs.head? = some b ∨ [a, b] <:+: cs := by
  rw [List.infix_cons_iff, List.cons_prefix_cons]
  cases cs with
  | nil => simp
  | cons d cs => simp [List.cons_prefix_cons, eq_comm]

theorem unmark_eq_self_iff (cs : List Char) :
    unmark cs = cs ↔ '\x60' ∉ cs ∧ ¬['*', '*'] <:+: cs ∧ ¬['_', '_'] <:+: cs := by
  fun_induction unmark cs with
  | case1 cs ih => exact iff_of_false (ne_cons_of_sublist (unmark_sublist cs) _) (by simp)
  | case2 cs ih =>
    exact iff_of_false (ne_cons_of_sublist ((unmark_sublist cs).cons _) _)
      (by simp [pair_infix_cons_iff])
  | case3 cs ih =>
    exact iff_of_false (ne_cons_of_sublist ((unmark_sublist cs).cons _) _)
      (by simp [pair_infix_cons_iff])
  | case4 c cs htick hstar hline ih =>
    -- No mark starts here, so the marks of the text are those of the rest.
    have hpair : ∀ a, (∀ rest, c = a → cs = a :: rest → False) →
        ([a, a] <:+: c :: cs ↔ [a, a] <:+: cs) := by
      intro a ha
      rw [pair_infix_cons_iff, List.head?_eq_some_iff, or_iff_right]
      rintro ⟨rfl, rest, hrest⟩
      exact ha rest rfl hrest
    rw [List.cons.injEq, and_iff_right rfl, ih, List.mem_cons, not_or,
      and_iff_right (Ne.symm htick), hpair '*' hstar, hpair '_' hline]
  | case5 => simp

theorem unescape_eq_self_iff (cs : List Char) :
    unescape cs = cs ↔ ∀ c ∈ escapable, ¬['\x5c', c] <:+: cs := by
  fun_induction unescape cs with
  | case1 c cs hc ih =>
    refine iff_of_false (ne_cons_of_sublist ((unescape_sublist cs).cons_cons c) _) fun h => ?_
    exact h c hc (pair_infix_cons_iff.2 (.inl ⟨rfl, rfl⟩))
  | case2 c cs hc ih =>
    rw [List.cons.injEq, and_iff_right rfl, ih]
    refine forall₂_congr fun d hd => not_congr ?_
    rw [pair_infix_cons_iff (c := '\x5c'), or_iff_right]
    rintro ⟨-, hhead⟩
    exact hc (Option.some.inj hhead ▸ hd)
  | case3 c cs hc ih =>
    rw [List.cons.injEq, and_iff_right rfl, ih]
    refine forall₂_congr fun d hd => not_congr ?_
    rw [pair_infix_cons_iff, List.head?_eq_some_iff, or_iff_right]
    rintro ⟨rfl, rest, hrest⟩
    exact hc d rest rfl hrest
  | case4 => simp

/-- Whether a text has nothing to take away: no bracket, no backtick, no two stars or two
    underscores side by side, and no backslash in front of a character that it can escape. -/
def IsBare (cs : List Char) : Prop :=
  IsPlain cs ∧ ¬['*', '*'] <:+: cs ∧ ¬['_', '_'] <:+: cs ∧
    ∀ c ∈ escapable, ¬['\x5c', c] <:+: cs

instance (cs : List Char) : Decidable (IsBare cs) := inferInstanceAs (Decidable (_ ∧ _ ∧ _ ∧ _))

/-- A text that has nothing to take away is left as it is, and no other text is. -/
theorem toPlain_eq_self_iff (text : String) : toPlain text = text ↔ IsBare text.toList := by
  rw [← String.toList_inj, toPlain, String.toList_ofList]
  constructor
  · intro h
    have hplain : IsPlain text.toList := by
      have := isPlain_toPlain text
      rwa [toPlain, String.toList_ofList, h] at this
    rw [unlink_eq_self hplain.1] at h
    -- No step after the first one puts anything in, so none of them takes anything away.
    have hmarks := unmark_sublist text.toList
    have hescapes := unescape_sublist (unmark text.toList)
    have hbrackets : text.toList.Sublist (unescape (unmark text.toList)) := by
      nth_rewrite 1 [← h]
      exact List.filter_sublist
    have hmark : unmark text.toList = text.toList :=
      hmarks.antisymm (hbrackets.trans hescapes)
    have hescape : unescape text.toList = text.toList := by
      rw [hmark] at hescapes hbrackets
      exact hescapes.antisymm hbrackets
    obtain ⟨-, hstar, hline⟩ := (unmark_eq_self_iff _).1 hmark
    exact ⟨hplain, hstar, hline, (unescape_eq_self_iff _).1 hescape⟩
  · rintro ⟨⟨hopen, hclose, htick⟩, hstar, hline, hescape⟩
    rw [unlink_eq_self hopen, (unmark_eq_self_iff _).2 ⟨htick, hstar, hline⟩,
      (unescape_eq_self_iff _).2 hescape, unbracket, List.filter_eq_self]
    intro c hc
    have : c ≠ '[' ∧ c ≠ ']' := ⟨fun h => hopen (h ▸ hc), fun h => hclose (h ▸ hc)⟩
    simpa using this

/-- A markdown text that is turned into plain text has no bracket and no backtick left. But for
    spaces and the characters that marks are made of, it has the characters that it had, in
    the same order, and nothing but spaces is put in. A text is left as it is exactly if it is
    bare, so that a text without brackets, backticks, backslashes, two stars and two
    underscores side by side is. -/
theorem to_plain_takes_marks_only (text : String) :
    IsPlain (toPlain text).toList ∧
    (toPlain text).toList.filter isProse = text.toList.filter isProse ∧
    ((toPlain text).toList.filter fun c => c ≠ ' ').Sublist
      (text.toList.filter fun c => c ≠ ' ') ∧
    (toPlain text = text ↔ IsBare text.toList) ∧
    (IsPlain text.toList → '\x5c' ∉ text.toList → ¬['*', '*'] <:+: text.toList →
      ¬['_', '_'] <:+: text.toList → toPlain text = text) := by
  have hlink := strips_unlink text.toList
  have hmark := strips_unmark (unlink text.toList)
  have hescape := strips_unescape (unmark (unlink text.toList))
  have hbracket := strips_unbracket (unescape (unmark (unlink text.toList)))
  refine ⟨isPlain_toPlain text, ?_, ?_, toPlain_eq_self_iff text,
    fun hplain hslash hstar hline => ?_⟩
  · rw [toPlain, String.toList_ofList, hbracket.prose_eq, hescape.prose_eq, hmark.prose_eq,
      hlink.prose_eq]
  · rw [toPlain, String.toList_ofList]
    exact hbracket.sublist.trans (hescape.sublist.trans (hmark.sublist.trans hlink.sublist))
  · refine (toPlain_eq_self_iff text).2 ⟨hplain, hstar, hline, fun c _ hpair => ?_⟩
    exact hslash (hpair.subset List.mem_cons_self)

/-- The text that is left need not be bare: what comes to stand side by side when a mark is
    taken away stays. -/
example : toPlain "*\x60*" = "**" ∧ ¬IsBare "**".toList := ⟨by cbv, by decide⟩

end StyleLens.Markdown
