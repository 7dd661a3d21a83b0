import StyleLens.Docs.Dataset
import StyleLens.Hover.Content
import StyleLens.Proofs.Markdown

/-!
# Marks of markdown in plain documentation

The text of an entry is put together from a caution, the description, the grammar and
the links. For a client that does not render markdown the description is turned into
plain text, and the cautions are plain anyway. The grammar and the names and
addresses of the links are taken as they are, so the text shows a mark of markdown
exactly if one of these does (`Entry.plain_text_is_unmarked_iff`).
-/

namespace StyleLens

open Markdown

/-- A link shows the marks of its name and of its address. -/
theorem Reference.marked_render_iff (r : Reference) :
    Marked (r.render false).toList ↔ Marked r.name.toList ∨ Marked r.url.toList := by
  have hopen : IsSpacer " (".toList := by decide
  have hclose : IsSpacer ")".toList := by decide
  have hend := marked_spaced (x := r.name.toList ++ " (".toList ++ r.url.toList) (y := []) hclose
  rw [List.append_nil, or_iff_left (by decide), marked_spaced hopen] at hend
  rwa [← String.toList_append, ← String.toList_append, ← String.toList_append] at hend

namespace Entry

variable (topic : Topic) (e : Entry)

theorem isPlain_caution : IsPlain ((e.status.bind (Status.caution? topic)).getD "").toList := by
  have hword : IsPlain topic.word.toList := by cases topic <;> decide
  have hsentence : ∀ sign rest : String, IsPlain sign.toList → IsPlain rest.toList →
      IsPlain (sign ++ topic.word ++ rest).toList := by
    intro sign rest hsign hrest
    rw [String.toList_append, String.toList_append]
    exact (hsign.append hword).append hrest
  cases e.status with
  | none => exact (by decide : IsPlain "".toList)
  | some status =>
    cases status with
    | standard => exact (by decide : IsPlain "".toList)
    | experimental => exact hsentence _ _ (by decide) (by decide)
    | nonstandard => exact hsentence _ _ (by decide) (by decide)
    | obsolete => exact hsentence _ _ (by decide) (by decide)

theorem isPlain_renderDescription : IsPlain (e.renderDescription false).toList := by
  rw [renderDescription]
  cases e.description with
  | none => decide
  | some description => exact isPlain_toPlain _

theorem marked_renderGrammar_iff :
    Marked e.renderGrammar.toList ↔
      ∃ grammar, e.grammar = some grammar ∧ Marked grammar.toList := by
  rw [renderGrammar]
  cases e.grammar with
  | none => simp [Marked]
  | some grammar =>
    have hlabel : IsPlain "\n\nSyntax: ".toList := by decide
    by_cases hempty : grammar = ""
    · simp [hempty, Marked]
    · simp only [if_neg hempty, String.toList_append, hlabel.marked_append, Option.some.injEq,
        exists_eq_left']

/-- Status, description and grammar show the marks of the grammar. -/
theorem marked_renderDocumentation_iff :
    Marked (e.renderDocumentation topic false).toList ↔
      ∃ grammar, e.grammar = some grammar ∧ Marked grammar.toList := by
  rw [renderDocumentation, String.toList_append, String.toList_append,
    ((e.isPlain_caution topic).append e.isPlain_renderDescription).marked_append,
    marked_renderGrammar_iff]

theorem marked_renderReferences_iff :
    Marked (e.renderReferences false).toList ↔
      ∃ r ∈ e.references, Marked r.name.toList ∨ Marked r.url.toList := by
  have hsep : IsSpacer " | ".toList := by decide
  rw [renderReferences, String.toList_intercalate, marked_intercalate hsep]
  simp [Reference.marked_render_iff]

/-- The text of an entry shows the marks of the sections that are shown. -/
theorem marked_render_iff (settings : Sections) :
    Marked (e.render topic ⟨false, settings⟩).toList ↔
      (settings.documentation ∧ ∃ grammar, e.grammar = some grammar ∧ Marked grammar.toList) ∨
      (settings.references ∧ ∃ r ∈ e.references, Marked r.name.toList ∨ Marked r.url.toList) := by
  have hblank : IsSpacer "\n\n".toList := by decide
  have hnone : ¬Marked "".toList := by decide
  -- What is shown above the links is unmarked if it is left out.
  generalize htext :
    (if settings.documentation then e.renderDocumentation topic false else "") = text
  have hmarked : Marked text.toList ↔ settings.documentation ∧
      ∃ grammar, e.grammar = some grammar ∧ Marked grammar.toList := by
    rw [← htext, ← marked_renderDocumentation_iff topic]
    split_ifs with hshown
    · exact (and_iff_right hshown).symm
    · exact iff_of_false hnone fun h => hshown h.1
  have hlinks : (settings.references ∧ ∃ r ∈ e.references,
      Marked r.name.toList ∨ Marked r.url.toList) ↔
      (settings.references ∧ e.references ≠ []) ∧ Marked (e.renderReferences false).toList := by
    rw [marked_renderReferences_iff, and_assoc]
    refine and_congr_right fun _ => (and_iff_right_of_imp ?_).symm
    rintro ⟨r, hr, -⟩
    exact List.ne_nil_of_mem hr
  rw [render, ← hmarked, hlinks]
  simp only [htext]
  by_cases hshown : settings.references ∧ e.references ≠ []
  · rw [if_pos hshown, and_iff_right hshown]
    by_cases hempty : text = ""
    · rw [if_pos hempty, hempty, String.empty_append, or_iff_right hnone]
    · rw [if_neg hempty, String.toList_append, String.toList_append, marked_spaced hblank]
  · rw [if_neg hshown, or_iff_left fun h => hshown h.1]

/-- The text of an entry for a client that does not render markdown shows no mark of
    markdown exactly if the sections that are taken as they are have none: the grammar, if
    documentation is shown, and the names and the addresses of the links, if links are
    shown. Status and description never add one. -/
theorem plain_text_is_unmarked_iff (topic : Topic) (e : Entry) (settings : Sections) :
    ¬Marked (e.render topic ⟨false, settings⟩).toList ↔
      (settings.documentation → ∀ grammar, e.grammar = some grammar → ¬Marked grammar.toList) ∧
      (settings.references → ∀ r ∈ e.references,
        ¬Marked r.name.toList ∧ ¬Marked r.url.toList) := by
  rw [marked_render_iff]
  simp only [not_or, not_and, not_exists]

/-- An entry whose link has its name in backticks. -/
def codeLink : Entry := ⟨"x", none, none, none, [⟨"\x60x\x60", "u"⟩]⟩

/-- A set of documentation can hold the entry, and the backticks are shown. -/
theorem plain_text_shows_backticks :
    (Dataset.empty.insert .property codeLink).get? .property "x" = some codeLink ∧
      codeLink.render .property ⟨false, .all⟩ = "\x60x\x60 (u)" ∧
      Marked (codeLink.render .property ⟨false, .all⟩).toList := by
  decide

end Entry

end StyleLens
