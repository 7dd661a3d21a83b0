import Mathlib.Data.List.Nodup
import StyleLens.Preview.Arena
import StyleLens.Proofs.Preview.Pass

/-!
# Arenas are drawn in the order of making

The nodes of an arena refer to each other by place, and are drawn by following
these places down from the root. Still, the nodes come out in the order in which
they were made, each of them once. For a node is only ever added below one of
the nodes at the lower end of the outline, which are the last to be drawn.

* `Arena.Stored`: some nodes of an arena are those of an outline that has a place
  for each of its items. The node that holds the items at a depth of the lower
  end is at `Arena.holder`;
* `Arena.Numbers`: the outline of a whole arena, with the places of its items in
  the order of drawing. A node that is added to the one is added to the other
  (`Arena.Numbers.grow`), and following the places draws the outline
  (`Arena.Numbers.drawn`);
* `Arena.Shown`: an arena shows the lines of a pass and is at its last element.
  Each compound keeps it so, and with them each run (`Arena.shown_ofLevels`).
-/

namespace StyleLens

namespace Arena

open Outline

/-- An outline of lines with a place for each of them. -/
abbrev Numbered := Outline (Nat × PreviewLine)

/-- The place of the topmost item. -/
def place : Numbered → Nat
  | .item (i, _) _ => i

/-- The places of some outlines, in the order of drawing from depth `k` on. -/
def places (k : Nat) (os : List Numbered) : List Nat := (entries k os).map fun e => e.2.1

/-- The lines of some outlines with their depths. -/
def lines (os : List Numbered) : List (Nat × PreviewLine) :=
  (entries 0 os).map fun e => (e.1, e.2.2)

/-- The place of the node that holds the items at depth `d` of the lower end of some
    outlines, which stand below the node at `p`. -/
def holder (p d : Nat) (os : List Numbered) : Nat :=
  match d with
  | 0 => p
  | d + 1 =>
    match os.getLast? with
    | none => p
    | some (.item (i, _) below) => holder i d below

/-- The nodes below the node at a place are those of some outlines. -/
inductive Stored (nodes : List ArenaNode) : Nat → List Numbered → Prop
  | nil {p : Nat} : Stored nodes p []
  | cons {p i : Nat} {line : PreviewLine} {below os : List Numbered}
      (hnode : nodes[i]? = some ⟨some line, some p, below.map place⟩)
      (hbelow : Stored nodes i below) (hrest : Stored nodes p os) :
      Stored nodes p (.item (i, line) below :: os)

variable {nodes nodes' : List ArenaNode} {p d k i : Nat} {line : PreviewLine} {os : List Numbered}

/-! ### The lower end -/

theorem holder_zero (p : Nat) (os : List Numbered) : holder p 0 os = p := by rw [holder]

theorem holder_concat (p d i : Nat) (line : PreviewLine) (front below : List Numbered) :
    holder p (d + 1) (front ++ [.item (i, line) below]) = holder i d below := by
  rw [holder, List.getLast?_concat]

theorem places_cons (k i : Nat) (line : PreviewLine) (below os : List Numbered) :
    places k (.item (i, line) below :: os) = i :: (places (k + 1) below ++ places k os) := by
  rw [places, entries, entriesOf, List.map_append, List.map_cons]
  rfl

theorem places_concat (k i : Nat) (line : PreviewLine) (front below : List Numbered) :
    places k (front ++ [.item (i, line) below]) = places k front ++ i :: places (k + 1) below := by
  rw [places, entries_append, entries_singleton, List.map_append]
  rfl

/-- The node that holds the lower end at a depth is drawn, unless it is the one that
    all others stand below. -/
theorem holder_mem (p k : Nat) (h : Open d os) : holder p d os ∈ p :: places k os := by
  induction d generalizing p k os with
  | zero =>
    rw [holder_zero]
    exact List.mem_cons_self
  | succ d ih =>
    obtain ⟨⟨i, line⟩, below, hlast, hbelow⟩ := h
    obtain ⟨front, rfl⟩ := List.getLast?_eq_some_iff.1 hlast
    rw [holder_concat, places_concat]
    exact List.mem_cons_of_mem _ (List.mem_append_right _ (ih i (k + 1) hbelow))

/-- An item is added below the node that holds its depth, which holds it after that. -/
theorem holder_addAt (p : Nat) (v : Nat × PreviewLine) (h : Open d os) :
    holder p d (addAt d v os) = holder p d os := by
  induction d generalizing p os with
  | zero => rw [holder_zero, holder_zero]
  | succ d ih =>
    obtain ⟨⟨i, line⟩, below, hlast, hbelow⟩ := h
    rw [addAt_succ v hlast]
    obtain ⟨front, rfl⟩ := List.getLast?_eq_some_iff.1 hlast
    rw [holder_concat, holder_concat, ih i hbelow]

/-- Below an item that was added, it holds the lower end itself. -/
theorem holder_succ_addAt (p i : Nat) (line : PreviewLine) (h : Open d os) :
    holder p (d + 1) (addAt d (i, line) os) = i := by
  induction d generalizing p os with
  | zero => rw [addAt_zero, holder_concat, holder_zero]
  | succ d ih =>
    obtain ⟨⟨j, w⟩, below, hlast, hbelow⟩ := h
    rw [addAt_succ _ hlast, holder_concat, ih j hbelow]

/-! ### Nodes of an outline -/

theorem stored_append {ps : List Numbered} :
    Stored nodes p (os ++ ps) ↔ Stored nodes p os ∧ Stored nodes p ps := by
  induction os with
  | nil => exact ⟨fun h => ⟨.nil, h⟩, And.right⟩
  | cons o os ih =>
    constructor
    · rintro (_ | ⟨hnode, hbelow, hrest⟩)
      exact ⟨.cons hnode hbelow (ih.1 hrest).1, (ih.1 hrest).2⟩
    · rintro ⟨_ | ⟨hnode, hbelow, hrest⟩, hps⟩
      exact .cons hnode hbelow (ih.2 ⟨hrest, hps⟩)

/-- A node elsewhere has no part in an outline. -/
theorem Stored.frame {q : Nat} (h : Stored nodes p os) (k : Nat) (hq : q ∉ places k os)
    (hsame : ∀ j node, j ≠ q → nodes[j]? = some node → nodes'[j]? = some node) :
    Stored nodes' p os := by
  induction h generalizing k with
  | nil => exact .nil
  | cons hnode _ _ ihbelow ihrest =>
    rw [places_cons, List.mem_cons, List.mem_append, not_or, not_or] at hq
    obtain ⟨hitem, hbelow, hrest⟩ := hq
    exact .cons (hsame _ _ (Ne.symm hitem) hnode) (ihbelow (k + 1) hbelow) (ihrest k hrest)

/-! ### One more node -/

/-- Where there is a node, one more can be added below it. -/
theorem grow?_eq {node : ArenaNode} (hnode : nodes[p]? = some node) (line : PreviewLine) :
    grow? nodes p line =
      some (nodes.set p ⟨node.line, node.parent, node.children ++ [nodes.length]⟩ ++
        [⟨some line, some p, []⟩]) := by
  obtain ⟨hlt, -⟩ := List.getElem?_eq_some_iff.1 hnode
  rw [grow?, List.getElem?_append_left hlt, hnode, Option.bind_eq_bind, Option.bind_some,
    List.set_append_left _ _ hlt]
  rfl

/-- The node that is added comes last, and one node gets it as its last child. -/
theorem getElem?_grow? {node : ArenaNode} (hnode : nodes[p]? = some node)
    (hgrow : grow? nodes p line = some nodes') :
    nodes'.length = nodes.length + 1 ∧
      nodes'[nodes.length]? = some ⟨some line, some p, []⟩ ∧
      nodes'[p]? = some ⟨node.line, node.parent, node.children ++ [nodes.length]⟩ ∧
      ∀ j other, j ≠ p → nodes[j]? = some other → nodes'[j]? = some other := by
  obtain ⟨hlt, -⟩ := List.getElem?_eq_some_iff.1 hnode
  rw [grow?_eq hnode] at hgrow
  obtain rfl := Option.some.inj hgrow
  refine ⟨by simp, by simp, ?_, fun j other hne hj => ?_⟩
  · rw [List.getElem?_append_left (by simpa using hlt), List.getElem?_set_self hlt]
  · obtain ⟨hlt', -⟩ := List.getElem?_eq_some_iff.1 hj
    rw [List.getElem?_append_left (by simpa using hlt'), List.getElem?_set_ne hne.symm, hj]

/-- To change the line of the node that was added is to add it with the other line. -/
theorem grow?_set {node : ArenaNode} (hnode : nodes[p]? = some node)
    (hgrow : grow? nodes p line = some nodes') (other : PreviewLine) :
    grow? nodes p other = some (nodes'.set nodes.length ⟨some other, some p, []⟩) := by
  rw [grow?_eq hnode] at hgrow ⊢
  obtain rfl := Option.some.inj hgrow
  rw [List.set_append_right _ _ (by simp)]
  simp

/-- A node that is added below the one that holds a depth of the lower end is an item
    at that depth. -/
theorem Stored.grow {line? : Option PreviewLine} {parent : Option Nat} (hopen : Open d os)
    (hnode : nodes[p]? = some ⟨line?, parent, os.map place⟩) (hstored : Stored nodes p os)
    (hplaces : (p :: places k os).Nodup) (line : PreviewLine) :
    ∃ node nodes', nodes[holder p d os]? = some node ∧
      grow? nodes (holder p d os) line = some nodes' ∧
      nodes'[p]? = some ⟨line?, parent, (addAt d (nodes.length, line) os).map place⟩ ∧
      Stored nodes' p (addAt d (nodes.length, line) os) := by
  induction d generalizing p k os line? parent with
  | zero =>
    -- The node itself gets one more child, and all below it stay as they are.
    have hgrow := grow?_eq hnode line
    obtain ⟨-, hnew, hself, hframe⟩ := getElem?_grow? hnode hgrow
    rw [holder_zero, addAt_zero]
    refine ⟨_, _, hnode, hgrow, by rw [hself, List.map_append]; rfl, stored_append.2 ⟨?_, ?_⟩⟩
    · exact hstored.frame k (List.nodup_cons.1 hplaces).1 hframe
    · exact .cons hnew .nil .nil
  | succ d ih =>
    -- The node is added to the last item, and the other items and the node above
    -- them are at other places.
    obtain ⟨⟨i, w⟩, below, hlast, hbelow⟩ := hopen
    rw [addAt_succ _ hlast]
    obtain ⟨front, rfl⟩ := List.getLast?_eq_some_iff.1 hlast
    obtain ⟨hfront, hitem⟩ := stored_append.1 hstored
    obtain _ | ⟨hinode, hibelow, -⟩ := hitem
    rw [places_concat, List.nodup_cons, List.mem_append, not_or, List.nodup_append] at hplaces
    obtain ⟨⟨-, hp⟩, -, hi, hdisjoint⟩ := hplaces
    obtain ⟨node, nodes', hholder, hgrow, hself, hstored'⟩ := ih hbelow hinode hibelow hi
    have hmem : holder i d below ∈ i :: places (k + 1) below := holder_mem i (k + 1) hbelow
    obtain ⟨-, -, -, hframe⟩ := getElem?_grow? hholder hgrow
    rw [holder_concat, List.dropLast_concat]
    refine ⟨node, nodes', hholder, hgrow, ?_, stored_append.2 ⟨?_, .cons hself hstored' .nil⟩⟩
    · rw [hframe p _ (fun h => hp (h ▸ hmem)) hnode, List.map_append, List.map_append]
      rfl
    · exact hfront.frame k (fun h => hdisjoint _ h _ hmem rfl) hframe

/-! ### The outline of an arena -/

/-- All nodes of an arena are those of some outlines below its root, and they are
    drawn in the order of their places. -/
structure Numbers (nodes : List ArenaNode) (os : List Numbered) : Prop where
  top : nodes[root]? = some ⟨none, none, os.map place⟩
  stored : Stored nodes root os
  in_order : places 0 os = List.range' 1 (nodes.length - 1)

theorem numbers_empty : Numbers empty.nodes [] := ⟨rfl, .nil, rfl⟩

/-- A node that is added below one that holds a depth of the lower end is one more item
    of the outline, and it is drawn last. -/
theorem Numbers.grow (h : Numbers nodes os) (hopen : Open d os) (line : PreviewLine) :
    ∃ node nodes', nodes[holder root d os]? = some node ∧
      grow? nodes (holder root d os) line = some nodes' ∧
      Numbers nodes' (addAt d (nodes.length, line) os) := by
  obtain ⟨n, hn⟩ : ∃ n, nodes.length = n + 1 :=
    Nat.exists_eq_add_one.2 (List.getElem?_eq_some_iff.1 h.top).1
  have hplaces : (root :: places 0 os).Nodup := by
    rw [h.in_order]
    exact List.nodup_cons.2 ⟨by simp [root], List.nodup_range'⟩
  obtain ⟨node, nodes', hholder, hgrow, htop, hstored⟩ :=
    Stored.grow hopen h.top h.stored hplaces line
  obtain ⟨hlength, -⟩ := getElem?_grow? hholder hgrow
  refine ⟨node, nodes', hholder, hgrow, htop, hstored, ?_⟩
  rw [places, entries_addAt 0 _ hopen, List.map_append, ← places, h.in_order, hlength, hn,
    Nat.add_sub_cancel, Nat.add_sub_cancel, List.range'_1_concat, Nat.add_comm 1]
  rfl

/-- Following the places draws the outline, as it has no more depths than items. -/
theorem Stored.visits (h : Stored nodes p os) (d : Nat)
    (hfits : d + (places d os).length ≤ nodes.length) :
    Arena.visits nodes d (os.map place) = some (entries d os) := by
  induction h generalizing d with
  | nil => rw [List.map_nil, Arena.visits, entries]
  | cons hnode _ _ ihbelow ihrest =>
    rw [places_cons, List.length_cons, List.length_append] at hfits
    rw [List.map_cons, Arena.visits, place, if_pos (by omega), hnode]
    simp only [Option.bind_eq_bind, Option.bind_some, ihbelow (d + 1) (by omega),
      ihrest d (by omega)]
    rw [entries, entriesOf]
    rfl

/-- An arena is drawn as its outline. -/
theorem Numbers.drawn {a : Arena} (h : Numbers a.nodes os) : a.drawn = some (entries 0 os) := by
  rw [Arena.drawn, h.top]
  refine h.stored.visits 0 ?_
  rw [h.in_order, List.length_range', Nat.zero_add]
  exact Nat.sub_le _ _

/-! ### Arenas and passes -/

/-- An arena shows the lines of a pass: nothing is written yet, or the last line is
    that of the current element, which was added last. -/
inductive Shown : Arena → Pass → Prop
  | empty : Shown .empty .empty
  | element {nodes nodes' : List ArenaNode} {os : List Numbered} {d : Nat} {e : Element}
      (hnodes : Numbers nodes os) (hopen : Open d os)
      (hgrow : grow? nodes (holder root d os) (.element e) = some nodes') :
      Shown ⟨nodes', nodes.length, some .descendant⟩ ⟨lines os ++ [(d, .element e)], some d⟩

theorem lines_addAt (h : Open d os) (i : Nat) (line : PreviewLine) :
    lines (addAt d (i, line) os) = lines os ++ [(d, line)] := by
  rw [lines, entries_addAt 0 _ h, List.map_append, Nat.zero_add]
  rfl

/-- An arena that shows the lines of a pass draws them, each node once and in the
    order of their places. -/
theorem Shown.numbers {a : Arena} {q : Pass} (h : Shown a q) :
    ∃ os, Numbers a.nodes os ∧ lines os = q.lines := by
  cases h with
  | empty => exact ⟨[], numbers_empty, rfl⟩
  | @element nodes nodes' os d e hnodes hopen hgrow =>
    obtain ⟨-, nodes'', -, hgrow', hnodes'⟩ := hnodes.grow hopen (.element e)
    obtain rfl := Option.some.inj (hgrow.symm.trans hgrow')
    exact ⟨_, hnodes', lines_addAt hopen _ _⟩

/-- The element of a compound, below the node that holds a depth of the lower end. -/
theorem Numbers.addElement (h : Numbers nodes os) (hopen : Open d os) (r : Option Combinator)
    (c : Compound) :
    ∃ a, Arena.addElement ⟨nodes, holder root d os, r⟩ c = some a ∧
      Shown a ⟨lines os ++ [(d, .element (.ofCompound c))], some d⟩ := by
  obtain ⟨-, nodes', -, hgrow, -⟩ := h.grow hopen (.element (.ofCompound c))
  exact ⟨_, by rw [Arena.addElement, hgrow]; rfl, .element h hopen hgrow⟩

/-- A gap below the node that holds a depth of the lower end. -/
theorem Numbers.addGap (h : Numbers nodes os) (hopen : Open d os) (current : Nat)
    (r : Option Combinator) (label : String) :
    ∃ nodes', Arena.addGap ⟨nodes, current, r⟩ (holder root d os) label =
        some ⟨nodes', current, r⟩ ∧
      Numbers nodes' (addAt d (nodes.length, .gap label) os) := by
  obtain ⟨-, nodes', -, hgrow, hnodes'⟩ := h.grow hopen (.gap label)
  exact ⟨nodes', by rw [Arena.addGap, hgrow]; rfl, hnodes'⟩

/-- The next compound is written as the pass writes it. -/
theorem Shown.pushLink {a : Arena} {q : Pass} (h : Shown a q) {d : Nat} (hd : q.depth = some d)
    (c : Combinator) (compound : Compound) :
    ∃ a', a.pushLink (c, compound) = some a' ∧ Shown a' (q.write d c compound) := by
  cases h with
  | empty => cases hd
  | @element nodes nodes' os d e hnodes hopen hgrow =>
    obtain rfl := Option.some.inj hd
    obtain ⟨node, nodes'', hholder, hgrow', hnodes'⟩ := hnodes.grow hopen (.element e)
    obtain rfl := Option.some.inj (hgrow.symm.trans hgrow')
    obtain ⟨-, hnew, -, -⟩ := getElem?_grow? hholder hgrow
    -- The current element holds the depth below it, and the node above it holds its own.
    have hopen' : Open (d + 1) (addAt d (nodes.length, .element e) os) := open_succ_addAt _ hopen
    have hcurrent := holder_succ_addAt root nodes.length (.element e) hopen
    have hparent := holder_addAt root (nodes.length, .element e) hopen
    have hlines := lines_addAt hopen nodes.length (.element e)
    have hleave : ∀ r, leave ⟨nodes', nodes.length, r⟩ = some ⟨nodes', holder root d os, r⟩ := by
      intro r
      rw [leave, hnew]
      rfl
    cases c with
    | descendant =>
      obtain ⟨gapped, hgap, hgapped⟩ :=
        hnodes'.addGap hopen' nodes.length (some .descendant) ellipsis
      rw [hcurrent] at hgap
      obtain ⟨a', ha', hshown⟩ :=
        hgapped.addElement (open_succ_addAt _ hopen') (some .descendant) compound
      rw [holder_succ_addAt _ _ _ hopen'] at ha'
      rw [lines_addAt hopen', hlines] at hshown
      refine ⟨a', ?_, hshown⟩
      simp only [Arena.pushLink, pushCompound, hgap, Option.bind_eq_bind, Option.bind_some]
      exact ha'
    | child =>
      obtain ⟨a', ha', hshown⟩ := hnodes'.addElement hopen' (some .child) compound
      rw [hcurrent] at ha'
      rw [hlines] at hshown
      refine ⟨a', ha', ?_⟩
      simpa only [Pass.write, Pass.reach, List.append_nil] using hshown
    | nextSibling =>
      obtain ⟨a', ha', hshown⟩ := hnodes'.addElement hopen'.of_succ (some .nextSibling) compound
      rw [hparent] at ha'
      rw [hlines] at hshown
      refine ⟨a', ?_, ?_⟩
      · simp only [Arena.pushLink, pushCompound, hleave, Option.bind_eq_bind, Option.bind_some, ha']
      · simpa only [Pass.write, Pass.reach, List.append_nil] using hshown
    | subsequentSibling =>
      obtain ⟨gapped, hgap, hgapped⟩ :=
        hnodes'.addGap hopen'.of_succ (holder root d os) (some .subsequentSibling) verticalEllipsis
      rw [hparent] at hgap
      obtain ⟨a', ha', hshown⟩ := hgapped.addElement
        (open_succ_addAt _ hopen'.of_succ).of_succ (some .subsequentSibling) compound
      rw [holder_addAt _ _ hopen'.of_succ, hparent] at ha'
      rw [lines_addAt hopen'.of_succ, hlines] at hshown
      refine ⟨a', ?_, hshown⟩
      simp only [Arena.pushLink, pushCompound, hleave, hgap, Option.bind_eq_bind, Option.bind_some,
        ha']

/-- The first compound of a level is written, or merged, as in the pass. -/
theorem Shown.pushFirst {a : Arena} {q : Pass} (h : Shown a q) (compound : Compound) :
    ∃ a', a.pushFirst compound = some a' ∧ Shown a' (q.step (none, compound)) := by
  cases hd : q.depth with
  | none =>
    -- The first of all stands below the root.
    cases h with
    | element => cases hd
    | empty =>
      obtain ⟨a', ha', hshown⟩ :=
        numbers_empty.addElement (show Open 0 [] from trivial) none compound
      refine ⟨a', ?_, hshown⟩
      rw [Arena.pushFirst, if_neg fun hamp => hamp.2.1 rfl]
      exact ha'
  | some d =>
    by_cases hamp : Compound.hasAmpersand compound
    · cases h with
      | empty => cases hd
      | @element nodes nodes' os d e hnodes hopen hgrow =>
        obtain ⟨node, -, hholder, -, -⟩ := hnodes.grow hopen (.element e)
        obtain ⟨-, hnew, -, -⟩ := getElem?_grow? hholder hgrow
        have hne : nodes.length ≠ root :=
          Nat.ne_of_gt (Nat.zero_lt_of_lt (List.getElem?_eq_some_iff.1 hnodes.top).1)
        have hmerged := Shown.element hnodes hopen
          (grow?_set hholder hgrow (.element (e.merge compound)))
        rw [Pass.step_merged rfl hamp, List.modifyLast_concat]
        refine ⟨_, ?_, hmerged⟩
        rw [Arena.pushFirst, if_pos ⟨hamp, hne, rfl⟩, hnew]
        rfl
    · obtain ⟨a', ha', hshown⟩ := h.pushLink hd .descendant compound
      have hrelation : a.relation = some .descendant := by
        cases h with
        | empty => cases hd
        | element => rfl
      rw [Pass.step_level hd hamp]
      refine ⟨a', ?_, hshown⟩
      rw [Arena.pushFirst, if_neg fun h => hamp h.1, ← ha', Arena.pushLink, ← hrelation]

/-- A run keeps in step with another if each step of it has a result that does. -/
theorem exists_foldlM_eq_some {α β γ : Type} {f : β → α → Option β} {g : γ → α → γ}
    {r : β → γ → Prop} (hstep : ∀ b c a, r b c → ∃ b', f b a = some b' ∧ r b' (g c a))
    (l : List α) {b : β} {c : γ} (h : r b c) :
    ∃ b', l.foldlM f b = some b' ∧ r b' (l.foldl g c) := by
  induction l generalizing b c with
  | nil => exact ⟨b, rfl, h⟩
  | cons a l ih =>
    obtain ⟨b', hb', h'⟩ := hstep b c a h
    rw [List.foldlM_cons, hb', Option.bind_eq_bind, Option.bind_some, List.foldl_cons]
    exact ih h'

/-- Some links, one after another. -/
theorem Shown.pushLinks {a : Arena} {q : Pass} (h : Shown a q) (hd : q.depth.isSome)
    (links : List (Combinator × Compound)) :
    ∃ a', links.foldlM Arena.pushLink a = some a' ∧
      Shown a' (links.foldl (fun q link => q.step (some link.1, link.2)) q) := by
  -- There is a last element all along, as the pass has one after each step.
  have hstep : ∀ (a : Arena) (q : Pass) (link : Combinator × Compound),
      Shown a q ∧ q.depth.isSome → ∃ a', a.pushLink link = some a' ∧
        Shown a' (q.step (some link.1, link.2)) ∧ (q.step (some link.1, link.2)).depth.isSome := by
    rintro a q ⟨c, compound⟩ ⟨h, hd⟩
    obtain ⟨d, hd⟩ := Option.isSome_iff_exists.1 hd
    obtain ⟨a', ha', hshown⟩ := h.pushLink hd c compound
    exact ⟨a', ha', by rwa [Pass.step_link hd], Pass.isSome_depth_step ..⟩
  obtain ⟨a', ha', hshown, -⟩ := exists_foldlM_eq_some hstep links ⟨h, hd⟩
  exact ⟨a', ha', hshown⟩

/-- The compounds of a level, one after another. -/
theorem Shown.push {a : Arena} {q : Pass} (h : Shown a q) (s : Selector) :
    ∃ a', a.push s = some a' ∧ Shown a' (s.compounds.foldl Pass.step q) := by
  obtain ⟨a', ha', hshown⟩ := h.pushFirst s.first
  rw [Arena.push, ha', Option.bind_eq_bind, Option.bind_some, Chain.compounds, List.foldl_cons,
    List.foldl_map]
  exact hshown.pushLinks (Pass.isSome_depth_step q _) s.rest

/-- Some levels, one after another: no place is out of bounds, and the arena shows the
    lines of the pass. -/
theorem shown_ofLevels (levels : List Selector) :
    ∃ a, ofLevels levels = some a ∧ Shown a (.ofLevels levels) := by
  rw [ofLevels, Pass.ofLevels, List.foldl_flatMap]
  exact exists_foldlM_eq_some (fun _ _ s h => h.push s) levels .empty

end Arena

/-- A preview is drawn line by line in one pass over the compounds of its levels. It can
    be kept in an arena, in which no place is ever out of bounds, each node but the root
    is drawn once, and the text is the same. -/
theorem preview_is_linear_pass (levels : List Selector) :
    (Preview.ofLevels levels).render = (Pass.ofLevels levels).text ∧
    ∃ a visited, Arena.ofLevels levels = some a ∧ a.drawn = some visited ∧
      (visited.map fun visit => visit.2.1) = List.range' 1 (a.nodes.length - 1) ∧
      a.render = some (Preview.ofLevels levels).render := by
  refine ⟨Preview.render_eq_text levels, ?_⟩
  obtain ⟨a, ha, hshown⟩ := Arena.shown_ofLevels levels
  obtain ⟨os, hnumbers, hlines⟩ := hshown.numbers
  refine ⟨a, _, ha, hnumbers.drawn, hnumbers.in_order, ?_⟩
  rw [Arena.render, hnumbers.drawn, Option.map_some, Preview.render,
    (Preview.drawn_ofLevels levels).lines, ← hlines, Arena.lines, List.map_map]
  rfl

end StyleLens
