import StyleLens.Proofs.Preview.Levels
import StyleLens.Proofs.Preview.Pass
import StyleLens.Proofs.Selector.Reading

/-!
# Combinators in previews

A preview says by its lines what combinator stands between two compounds: the line behind
the first one has a depth and a first character that no other combinator gives
(`Pass.opening`). So the text of a preview tells the combinators apart, whatever they
stand between (`Preview.related_injective`).

A node of the syntax tree that joins two selectors has its combinator read only if it has
two named children. One that starts with the combinator, as in `.menu { > li {} }`, has one,
and is read as if the combinator was not there. Behind the rules around it, its preview is
then that of a descendant.

All named children count, whether they are selectors or not. A comment or an error in front
of the only operand, as in `> /* items */ li`, is a named child too, and reads as an empty
compound. So there the combinator is read, and the preview shows it below an element that
nothing is known of.
-/

namespace StyleLens

/-! ### Lines -/

namespace Pass

variable {p q : Pass} {lower : List (Nat × PreviewLine)}

/-- Lines that are added to a pass are a text of their own. -/
theorem text_eq_append (hlines : q.lines = p.lines ++ lower) (hp : p.lines ≠ [])
    (hlower : lower ≠ []) : q.text = p.text ++ "\n" ++ text ⟨lower, none⟩ := by
  simp only [text, hlines, List.map_append]
  exact String.intercalate_append_of_ne_nil (by simpa using hp) (by simpa using hlower)

/-- A text starts with the blanks in front of its first line and with that line. -/
theorem toList_text_cons {line : PreviewLine} {char : Char}
    (hline : line.render.toList.head? = some char) (d : Nat) (lower : List (Nat × PreviewLine)) :
    ∃ rest, (text ⟨(d, line) :: lower, none⟩).toList =
      List.replicate (2 * d) ' ' ++ char :: rest := by
  obtain ⟨chars, hchars⟩ := List.head?_eq_some_iff.1 hline
  cases lower with
  | nil => exact ⟨chars, by simp [text, hchars]⟩
  | cons next lower =>
    exact ⟨chars ++ '\n' :: (text ⟨next :: lower, none⟩).toList, by simp [text, hchars]⟩

/-- A pass with some more compounds, each behind a combinator. -/
def addLinks (p : Pass) (links : List (Combinator × Compound)) : Pass :=
  links.foldl (fun p (c, compound) => p.step (some c, compound)) p

/-- Links only add lines below those of a pass, and leave a last element. -/
theorem addLinks_grows (hd : p.depth.isSome) (links : List (Combinator × Compound)) :
    p.lines <+: (p.addLinks links).lines ∧ (p.addLinks links).depth.isSome := by
  induction links generalizing p with
  | nil => exact ⟨List.prefix_rfl, hd⟩
  | cons link links ih =>
    obtain ⟨d, hd⟩ := Option.isSome_iff_exists.1 hd
    obtain ⟨hlines, hlast⟩ := ih (isSome_depth_step p (some link.1, link.2))
    have hstep : p.lines <+: (p.step (some link.1, link.2)).lines := by
      rw [step_link hd, write, List.append_assoc]
      exact List.prefix_append ..
    exact ⟨hstep.trans hlines, hlast⟩

/-- The pass over one selector: its first compound, then its links. -/
theorem ofLevels_singleton (s : Selector) :
    ofLevels [s] = (empty.step (none, s.first)).addLinks s.rest := by
  rw [ofLevels, List.flatMap_singleton, Chain.compounds, List.foldl_cons, List.foldl_map]
  rfl

/-- The pass over two selectors with a combinator between them goes on behind the first. -/
theorem ofLevels_join {before : Selector} {d : Nat} (hd : (ofLevels [before]).depth = some d)
    (c : Combinator) (after : Selector) :
    ofLevels [before.join c after] =
      ((ofLevels [before]).write d c after.first).addLinks after.rest := by
  rw [← step_link hd, ofLevels_singleton, ofLevels_singleton]
  simp only [Chain.join, addLinks, List.foldl_append, List.foldl_cons]

/-- The depth and the first character of the line below an element at depth `d`, if a
    combinator stands behind the element. -/
def opening (d : Nat) : Combinator → Nat × Char
  | .descendant => (d + 1, '…')
  | .child => (d + 1, '<')
  | .nextSibling => (d, '<')
  | .subsequentSibling => (d, '⋮')

theorem opening_injective (d : Nat) : Function.Injective (opening d) := by
  intro c c' h
  cases c <;> cases c' <;> simp_all [opening]

theorem snd_opening_ne_blank (d : Nat) (c : Combinator) : (opening d c).2 ≠ ' ' := by
  cases c <;> simp [opening]

/-- The lines of a compound behind a combinator start with the opening of the combinator. -/
theorem toList_text_write (d : Nat) (c : Combinator) (compound : Compound)
    (lower : List (Nat × PreviewLine)) :
    ∃ rest, (text ⟨(empty.write d c compound).lines ++ lower, none⟩).toList =
      List.replicate (2 * (opening d c).1) ' ' ++ (opening d c).2 :: rest := by
  have htag : (PreviewLine.element (.ofCompound compound)).render.toList.head? = some '<' := by
    simp [PreviewLine.render, Element.render]
  have hdots : (PreviewLine.gap "…").render.toList.head? = some '…' := rfl
  have hcolumn : (PreviewLine.gap "⋮").render.toList.head? = some '⋮' := rfl
  cases c with
  | descendant => exact toList_text_cons hdots (d + 1) _
  | child => exact toList_text_cons htag (d + 1) _
  | nextSibling => exact toList_text_cons htag d _
  | subsequentSibling => exact toList_text_cons hcolumn d _

end Pass

/-- Blanks in front of another character can be counted. -/
theorem replicate_blank_append_inj {m n : Nat} {a b : Char} (ha : a ≠ ' ') (hb : b ≠ ' ')
    {as bs : List Char}
    (h : List.replicate m ' ' ++ a :: as = List.replicate n ' ' ++ b :: bs) : m = n ∧ a = b := by
  induction m generalizing n with
  | zero =>
    cases n with
    | zero => exact ⟨rfl, (List.cons.inj h).1⟩
    | succ n => exact absurd (List.cons.inj h).1 ha
  | succ m ih =>
    cases n with
    | zero => exact absurd (List.cons.inj h).1.symm hb
    | succ n =>
      obtain ⟨hmn, hab⟩ := ih (List.cons.inj h).2
      exact ⟨congrArg _ hmn, hab⟩

/-! ### Previews -/

namespace Preview

/-- The text of the preview of two selectors with a combinator between them. -/
def related (before : Selector) (c : Combinator) (after : Selector) : String :=
  (empty.push (before.join c after)).render

/-- The text of a preview goes on below the first selector with the opening of the
    combinator. -/
theorem exists_related_eq (before after : Selector) :
    ∃ (upper : String) (d : Nat), ∀ c, ∃ rest, (related before c after).toList =
      upper.toList ++ '\n' ::
        (List.replicate (2 * (Pass.opening d c).1) ' ' ++ (Pass.opening d c).2 :: rest) := by
  -- The pass over the first selector has lines, the last one of an element at some depth.
  obtain ⟨hlines, hlast⟩ :=
    Pass.addLinks_grows (Pass.isSome_depth_step .empty (none, before.first)) before.rest
  rw [← Pass.ofLevels_singleton] at hlines hlast
  obtain ⟨d, hd⟩ := Option.isSome_iff_exists.1 hlast
  refine ⟨(Pass.ofLevels [before]).text, d, fun c => ?_⟩
  obtain ⟨lower, hlower⟩ := (Pass.addLinks_grows
    (p := (Pass.ofLevels [before]).write d c after.first) rfl after.rest).1
  obtain ⟨rest, hrest⟩ := Pass.toList_text_write d c after.first lower
  refine ⟨rest, ?_⟩
  have hjoin : (Pass.ofLevels [before.join c after]).lines =
      (Pass.ofLevels [before]).lines ++ ((Pass.empty.write d c after.first).lines ++ lower) := by
    rw [Pass.ofLevels_join hd, ← hlower]
    simp [Pass.write, Pass.empty]
  have htext := Pass.text_eq_append hjoin (hlines.ne_nil (List.cons_ne_nil _ _))
    (by simp [Pass.write])
  rw [related, show empty.push (before.join c after) = ofLevels [before.join c after] from rfl,
    render_eq_text, htext, ← hrest]
  simp

theorem related_injective (before after : Selector) :
    Function.Injective fun c => related before c after := by
  intro c c' h
  obtain ⟨upper, d, hopening⟩ := exists_related_eq before after
  obtain ⟨rest, hrest⟩ := hopening c
  obtain ⟨rest', hrest'⟩ := hopening c'
  have hlower := (congrArg String.toList h).symm.trans hrest
  rw [hrest', List.append_cancel_left_eq, List.cons.injEq] at hlower
  obtain ⟨hdepth, hchar⟩ := replicate_blank_append_inj (Pass.snd_opening_ne_blank d c')
    (Pass.snd_opening_ne_blank d c) hlower.2
  exact Pass.opening_injective d (Prod.ext (by omega) hchar.symm)

/-- Some levels around a last one are the resolved selector. -/
theorem ofLevels_concat (around : List Selector) (own : Selector) :
    ofLevels (around ++ [own]) = empty.push (Selector.resolve (around ++ [own])) := by
  cases around with
  | nil => rfl
  | cons outermost around => exact ofLevels_eq_push_resolve outermost (around ++ [own])

end Preview

/-! ### Nested rules -/

namespace Selector

theorem resolve_concat {around : List Selector} (haround : around ≠ []) (own : Selector) :
    resolve (around ++ [own]) = (resolve around).nest own := by
  obtain ⟨outermost, around, rfl⟩ := List.exists_cons_of_ne_nil haround
  exact List.foldl_concat ..

/-- What stands behind a combinator has no part in how a rule is nested. -/
theorem nest_join (outer before after : Selector) (c : Combinator) :
    outer.nest (before.join c after) = (outer.nest before).join c after := by
  by_cases h : Compound.hasAmpersand before.first <;> simp [nest, Chain.join, h]

theorem resolve_concat_join (around : List Selector) (before after : Selector) (c : Combinator) :
    resolve (around ++ [before.join c after]) = (resolve (around ++ [before])).join c after := by
  by_cases haround : around = []
  · rw [haround]
    rfl
  · rw [resolve_concat haround, resolve_concat haround, nest_join]

theorem nest_of_not_hasAmpersand (outer : Selector) {inner : Selector}
    (h : ¬Compound.hasAmpersand inner.first) : outer.nest inner = outer.join .descendant inner :=
  if_neg h

/-- Without a second named child, a combinator is not read. -/
theorem read_of_single {source : String} {t child : Tree} {c : Combinator}
    (hkind : t.kind.combinator? = some c) (hnamed : t.children.filter (·.named) = [child]) :
    read source t = read source child := by
  cases t with
  | node l cs =>
    have hkind : l.kind.combinator? = some c := hkind
    have hnamed : cs.filter (·.named) = [child] := hnamed
    rw [read, hkind]
    simp [readNamed_eq, hnamed, joinOperands]

/-- A combinator is read in front of the last named child of its node exactly if there is
    another one. With two or more, the preview shows it, and no other combinator, between
    the first one and the last. With one, the selector is that of the child, and behind the
    rules around it the preview shows it as a descendant.

    The named children are not only operands: with a comment or an error in front of its one
    operand, a combinator is read, behind the empty compound that stands for the comment. -/
theorem combinator_is_read_iff_two_operands (source : String) (dialect : Dialect) {f : Focus}
    {c : Combinator} {front : List Tree} {last : Tree} (hkind : f.kind.combinator? = some c)
    (hnamed : f.node.children.filter (·.named) = front ++ [last]) :
    let own := read source f.node
    let after := read source last
    let around := (Nesting.context source dialect f).map fun g => read source g.node
    let preview := (Report.ofSelector source dialect f).preview
    ((∃ before, own.pieces = before ++ .combinator c :: after.pieces) ↔ front ≠ []) ∧
    (∀ first ∈ front.head?, ∀ k,
      preview = Preview.related (resolve (around ++ [read source first])) k after ↔ k = c) ∧
    (front = [] → own = after ∧
      (around ≠ [] → ¬Compound.hasAmpersand after.first → ∀ k,
        preview = Preview.related (resolve around) k after ↔ k = .descendant)) := by
  intro own after around preview
  have hpreview : preview = (Preview.empty.push (resolve (around ++ [own]))).render := by
    rw [← Preview.ofLevels_concat]
    rfl
  cases front with
  | nil =>
    have hown : own = after := read_of_single hkind hnamed
    refine ⟨?_, by simp, fun _ => ⟨hown, fun haround hamp k => ?_⟩⟩
    · -- The pieces of the child cannot be the pieces that stand behind a combinator.
      refine iff_of_false ?_ (by simp)
      rintro ⟨before, hpieces⟩
      have hlength := congrArg List.length hpieces
      rw [hown, List.length_append, List.length_cons] at hlength
      omega
    · rw [hpreview, hown, resolve_concat haround, nest_of_not_hasAmpersand _ hamp]
      exact (Preview.related_injective (resolve around) after).eq_iff.trans eq_comm
  | cons first between =>
    have hown : own = (read source first).join c after := read_joined hkind hnamed
    refine ⟨iff_of_true ⟨(read source first).pieces, ?_⟩ (List.cons_ne_nil _ _), ?_, by simp⟩
    · rw [hown, Chain.pieces_join]
    · rintro _ ⟨⟩ k
      rw [hpreview, hown, resolve_concat_join]
      exact (Preview.related_injective _ after).eq_iff.trans eq_comm

-- With a comment in front of `li`, the combinator is read behind an empty compound.
example : read "> /**/ li" (.node ⟨"child_selector", true, 0, 9⟩
    [.node ⟨">", false, 0, 1⟩ [], .node ⟨"comment", true, 2, 6⟩ [],
      .node ⟨"tag_name", true, 7, 9⟩ []]) = ⟨[], [(.child, [.type "li"])]⟩ := rfl

/-- A rule with a rule in it that starts with a combinator. -/
def menuRule : String := ".menu \x7b > li \x7b\x7d \x7d"

/-- The operand of the combinator in `menuRule`. -/
def menuItem : Tree := .node ⟨"tag_name", true, 10, 12⟩ []

/-- The tree of `menuRule`. -/
def menuTree : Tree :=
  .node ⟨"stylesheet", true, 0, 17⟩
    [.node ⟨"rule_set", true, 0, 17⟩
      [.node ⟨"selectors", true, 0, 5⟩
          [.node ⟨"class_selector", true, 0, 5⟩
            [.node ⟨".", false, 0, 1⟩ [],
              .node ⟨"class_name", true, 1, 5⟩ [.node ⟨"identifier", true, 1, 5⟩ []]]],
        .node ⟨"block", true, 6, 17⟩
          [.node ⟨"\x7b", false, 6, 7⟩ [],
            .node ⟨"rule_set", true, 8, 15⟩
              [.node ⟨"selectors", true, 8, 12⟩
                  [.node ⟨"child_selector", true, 8, 12⟩ [.node ⟨">", false, 8, 9⟩ [], menuItem]],
                .node ⟨"block", true, 13, 15⟩
                  [.node ⟨"\x7b", false, 13, 14⟩ [], .node ⟨"\x7d", false, 14, 15⟩ []]],
            .node ⟨"\x7d", false, 16, 17⟩ []]]]

/-- The selector of the inner rule of `menuRule`. -/
def menuChild : Focus := ((Focus.root menuTree).descend? [0, 1, 1, 0, 0]).getD (.root menuTree)

/-- `> li` in a rule on `.menu` is shown as a descendant and not as a child, whereas the
    combinator of `a > b#c` is read. -/
theorem combinator_is_read_iff_two_operands_menu :
    (Report.ofSelector menuRule .css menuChild).preview =
        Preview.related ⟨[.byClass "menu"], []⟩ .descendant ⟨[.type "li"], []⟩ ∧
      (Report.ofSelector menuRule .css menuChild).preview ≠
        Preview.related ⟨[.byClass "menu"], []⟩ .child ⟨[.type "li"], []⟩ ∧
      ∃ before, (read "a > b#c" idInside).pieces =
        before ++ [.combinator .child, .simple (.type "b"), .simple (.byId "c")] := by
  have hmenu : menuChild.node.children.filter (·.named) = [] ++ [menuItem] := rfl
  have hid : (Focus.root idInside).node.children.filter (·.named) = [_] ++ [_] := rfl
  obtain ⟨-, -, hlost⟩ := combinator_is_read_iff_two_operands menuRule .css
    (c := .child) (by decide) hmenu
  obtain ⟨hread, -⟩ := combinator_is_read_iff_two_operands "a > b#c" .css
    (c := .child) (by decide) hid
  have hshown := (hlost rfl).2 (List.cons_ne_nil _ _) (by decide)
  exact ⟨(hshown .descendant).2 rfl, fun h => absurd ((hshown .child).1 h) (by decide),
    hread.2 (List.cons_ne_nil _ _)⟩

/-- The combinator of `> li` is neither in the selector nor in the preview. -/
theorem leading_combinator_is_lost :
    menuChild.kind.combinator? = some .child ∧
      menuChild.node.children.filter (·.named) = [menuItem] ∧
      read menuRule menuChild.node = ⟨[.type "li"], []⟩ ∧
      (Report.ofSelector menuRule .css menuChild).preview =
        "<element class=\"menu\">\n  …\n    <li>" ∧
      Preview.related ⟨[.byClass "menu"], []⟩ .child ⟨[.type "li"], []⟩ =
        "<element class=\"menu\">\n  <li>" := by
  refine ⟨by decide, rfl, rfl, ?_, ?_⟩
  · decide
  · decide

end Selector

end StyleLens
