import StyleLens.Docs.Dataset
import StyleLens.Hover.Content
import StyleLens.Proofs.Text.Joined

/-!
# Sections of a documentation

The text of an entry has up to four sections: a sentence about the status, the description, a
line with the grammar and a line with the links (`Entry.sections`). It should be those of them that
say something, with a blank line between two of them.

But the blank lines are not put between sections. One goes with the sentence about the
status and one with the grammar, as if the description were always there
(`Entry.renderDocumentation_eq`). Where it says nothing and one of its neighbours does, it is an
empty section of its own, and the text has a blank line too many (`Entry.LacksDescription`).
-/

namespace StyleLens

/-- What to know of a construct that is not a standard, as a sentence. -/
def Status.sentence (topic : Topic) : Status → String
  | .standard => ""
  | .experimental => "⚠️ " ++ topic.word ++ " is experimental. Be cautious when using it."
  | .nonstandard => "🚨️ " ++ topic.word ++ " is nonstandard. Avoid using it."
  | .obsolete => "🚨️ " ++ topic.word ++ " is obsolete. Avoid using it."

/-- The sections that say something, with a blank line between two of them. -/
def joinSections (sections : List String) : String :=
  "\n\n".intercalate (sections.filter fun s => s ≠ "")

theorem Reference.render_ne_empty (markdown : Bool) (r : Reference) : r.render markdown ≠ "" := by
  cases markdown <;> simp [Reference.render, String.append_eq_empty_iff]

namespace Entry

variable (topic : Topic) (markdown : Bool) (e : Entry)

/-- The sentence about the status of a construct. -/
def warning : String := e.status.elim "" (Status.sentence topic)

/-- The line with the grammar. -/
def grammarLine : String :=
  match e.grammar with
  | none => ""
  | some grammar => if grammar = "" then "" else "Syntax: " ++ grammar

/-- The line with the links, if links are shown. -/
def linkLine (p : Presentation) : String :=
  if p.settings.references then e.renderReferences p.markdown else ""

/-- The sections of the text of an entry, those about its construct if they are shown. -/
def sections (p : Presentation) : List String :=
  if p.settings.documentation then
    [e.warning topic, e.renderDescription p.markdown, e.grammarLine, e.linkLine p]
  else [e.linkLine p]

/-- Whether a description is missed: documentation is shown, and there is a sentence about the
    status or a grammar, but the description says nothing. -/
def LacksDescription (p : Presentation) : Prop :=
  p.settings.documentation ∧ e.renderDescription p.markdown = "" ∧
    (e.warning topic ≠ "" ∨ e.grammarLine ≠ "")

/-! ### Pieces -/

/-- The sentence about the status brings a blank line along. -/
theorem caution_eq :
    (e.status.bind (Status.caution? topic)).getD "" =
      if e.warning topic = "" then "" else e.warning topic ++ "\n\n" := by
  rw [warning]
  cases e.status with
  | none => rfl
  | some status =>
    cases status with
    | standard => rfl
    | _ =>
      simp [Status.caution?, Status.sentence, String.append_eq_empty_iff, String.append_assoc]

/-- The grammar brings a blank line along. -/
theorem renderGrammar_eq :
    e.renderGrammar = if e.grammarLine = "" then "" else "\n\n" ++ e.grammarLine := by
  rw [renderGrammar, grammarLine]
  cases e.grammar with
  | none => rfl
  | some grammar =>
    by_cases h : grammar = ""
    · simp [h]
    · simp [h, String.append_eq_empty_iff, ← String.append_assoc]

theorem renderReferences_eq_empty_iff : e.renderReferences markdown = "" ↔ e.references = [] := by
  rw [renderReferences, Text.intercalate_eq_empty_iff, List.map_eq_nil_iff]
  intro t ht
  obtain ⟨r, -, rfl⟩ := List.mem_map.1 ht
  exact r.render_ne_empty markdown

/-- Documentation is joined with the description as a section, whatever it says. -/
theorem renderDocumentation_eq :
    e.renderDocumentation topic markdown =
      "\n\n".intercalate (([e.warning topic].filter fun s => s ≠ "") ++
        e.renderDescription markdown :: [e.grammarLine].filter fun s => s ≠ "") := by
  rw [renderDocumentation, caution_eq, renderGrammar_eq]
  by_cases hwarning : e.warning topic = "" <;> by_cases hgrammar : e.grammarLine = "" <;>
    simp [hwarning, hgrammar, String.append_assoc]

theorem renderDocumentation_eq_empty_iff :
    e.renderDocumentation topic markdown = "" ↔
      e.warning topic = "" ∧ e.renderDescription markdown = "" ∧ e.grammarLine = "" := by
  rw [renderDocumentation, caution_eq, renderGrammar_eq, String.append_eq_empty_iff,
    String.append_eq_empty_iff, and_assoc]
  refine and_congr ?_ (and_congr_right fun _ => ?_) <;>
    split_ifs with h <;> simp [h, String.append_eq_empty_iff]

/-! ### The text -/

variable (p : Presentation)

/-- The links are joined to the rest as a section is. -/
theorem render_eq :
    e.render topic p =
      joinSections [if p.settings.documentation then e.renderDocumentation topic p.markdown else "",
        e.linkLine p] := by
  have hlinks : p.settings.references ∧ e.references ≠ [] ↔ e.linkLine p ≠ "" := by
    rw [linkLine]
    split_ifs with h <;> simp [h, renderReferences_eq_empty_iff]
  rw [render]
  generalize
    (if p.settings.documentation then e.renderDocumentation topic p.markdown else "") = text
  by_cases hshown : p.settings.references ∧ e.references ≠ []
  · have hline : e.linkLine p = e.renderReferences p.markdown := if_pos hshown.1
    have hne := hlinks.1 hshown
    rw [if_pos hshown, joinSections, ← hline]
    by_cases htext : text = "" <;> simp [htext, hne]
  · have hline : e.linkLine p = "" := not_not.1 (mt hlinks.2 hshown)
    rw [if_neg hshown, joinSections, hline]
    by_cases htext : text = "" <;> simp [htext]

/-- Documentation that says something is joined with the links, and has the description as
    a section, whatever it says. -/
theorem render_of_documentation (hshown : p.settings.documentation)
    (htext : e.renderDocumentation topic p.markdown ≠ "") :
    e.render topic p =
      "\n\n".intercalate (([e.warning topic].filter fun s => s ≠ "") ++
        e.renderDescription p.markdown ::
          [e.grammarLine, e.linkLine p].filter fun s => s ≠ "") := by
  have hfilter : ([e.grammarLine, e.linkLine p].filter fun s => s ≠ "") =
      ([e.grammarLine].filter fun s => s ≠ "") ++ [e.linkLine p].filter fun s => s ≠ "" :=
    List.filter_append [e.grammarLine] [e.linkLine p]
  rw [render_eq, if_pos hshown, joinSections, List.filter_cons_of_pos (by simpa using htext),
    hfilter, ← List.cons_append, ← List.append_assoc]
  by_cases hlinks : e.linkLine p = ""
  · simp [hlinks, renderDocumentation_eq]
  · rw [List.filter_cons_of_pos (by simpa using hlinks), List.filter_nil,
      String.intercalate_append_of_ne_nil (by simp) (by simp), ← renderDocumentation_eq]
    simp

/-- Without a description, there is an empty section in its place. -/
theorem LacksDescription.render_eq {topic : Topic} {p : Presentation} {e : Entry}
    (h : e.LacksDescription topic p) :
    e.render topic p =
      "\n\n".intercalate (([e.warning topic].filter fun s => s ≠ "") ++
        "" :: [e.grammarLine, e.linkLine p].filter fun s => s ≠ "") := by
  obtain ⟨hshown, hdescription, hsome⟩ := h
  rw [render_of_documentation _ _ _ hshown, hdescription]
  rw [Ne, renderDocumentation_eq_empty_iff]
  tauto

/-- Without a description, the text has one blank line more than the sections need. -/
theorem LacksDescription.length_render {topic : Topic} {p : Presentation} {e : Entry}
    (h : e.LacksDescription topic p) :
    (e.render topic p).length = (joinSections (e.sections topic p)).length + "\n\n".length := by
  have hsections : joinSections (e.sections topic p) =
      "\n\n".intercalate (([e.warning topic].filter fun s => s ≠ "") ++
        [e.grammarLine, e.linkLine p].filter fun s => s ≠ "") := by
    rw [sections, if_pos h.1, h.2.1, joinSections, ← List.filter_append]
    simp [List.filter_cons]
  rw [h.render_eq, hsections, Text.length_intercalate_insert]
  rcases h.2.2 with hwarning | hgrammar
  · simp [hwarning]
  · simp [hgrammar]

/-- Unless a description is missed, the text is the sections that say something, joined. -/
theorem render_eq_joinSections {topic : Topic} {p : Presentation} {e : Entry}
    (h : ¬e.LacksDescription topic p) : e.render topic p = joinSections (e.sections topic p) := by
  by_cases hshown : p.settings.documentation
  · rw [sections, if_pos hshown]
    by_cases htext : e.renderDocumentation topic p.markdown = ""
    · -- Nothing is said about the construct, so there are only links.
      obtain ⟨hwarning, hdescription, hgrammar⟩ := (e.renderDocumentation_eq_empty_iff ..).1 htext
      rw [render_eq, if_pos hshown, htext, hwarning, hdescription, hgrammar, joinSections]
      rfl
    · have hdescription : e.renderDescription p.markdown ≠ "" := by
        rw [renderDocumentation_eq_empty_iff] at htext
        rw [LacksDescription] at h
        tauto
      rw [render_of_documentation _ _ _ hshown htext, joinSections,
        ← List.filter_cons_of_pos (by simpa using hdescription), ← List.filter_append]
      rfl
  · rw [render_eq, sections, if_neg hshown, if_neg hshown]
    rfl

/-- The text of an entry is the sections that say something, joined by one blank line, exactly
    if no description is missed. Otherwise there is an empty section in the place of the
    description, and so one blank line too many: at the start of the text if there is no
    sentence about the status, at the end if there is nothing else, and doubled between two
    sections in all other cases. -/
theorem sections_are_joined_iff (topic : Topic) (p : Presentation) (e : Entry) :
    (e.render topic p = joinSections (e.sections topic p) ↔ ¬e.LacksDescription topic p) ∧
    (e.LacksDescription topic p →
      e.render topic p =
        "\n\n".intercalate (([e.warning topic].filter fun s => s ≠ "") ++
          "" :: [e.grammarLine, e.linkLine p].filter fun s => s ≠ "")) := by
  refine ⟨⟨fun h hlacks => ?_, render_eq_joinSections⟩, LacksDescription.render_eq⟩
  have hlength := hlacks.length_render
  rw [h] at hlength
  exact absurd hlength (Nat.ne_of_lt (Nat.lt_add_of_pos_right (by decide)))

/-- An entry with a grammar and nothing else. -/
def grammarOnly : Entry := ⟨"x", none, some "y", none, []⟩

/-- A set of documentation can hold the entry, and its text starts with a blank line. -/
theorem grammar_alone_follows_blank_line :
    (Dataset.empty.insert .property grammarOnly).get? .property "x" = some grammarOnly ∧
      grammarOnly.render .property ⟨true, .all⟩ = "\n\nSyntax: y" ∧
      joinSections (grammarOnly.sections .property ⟨true, .all⟩) = "Syntax: y" := by
  decide

end Entry

end StyleLens
