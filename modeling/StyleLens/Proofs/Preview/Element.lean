import Mathlib.Data.List.Induction
import Mathlib.Data.List.Nodup
import StyleLens.Preview.Element
import StyleLens.Proofs.Text.Joined

/-!
# What an element collects

A simple selector names the element (`Simple.typeName?`), or it mentions an attribute with a
value (`Simple.mention?`), or it says nothing. The element that some compounds are merged into has
the first name, and an attribute for each name that is mentioned, in the order of the
first mentions. Its value is what the mentions give, in order, with a blank between two of
them and empty values left out (`Element.collected`).

The proof goes along the mentions: one more of them changes the collected attributes
as `addValue` does (`Element.addValue_collected`).
-/

namespace StyleLens

/-- The name that a simple selector gives to an element. -/
def Simple.typeName? : Simple → Option String
  | .type name => some name
  | _ => none

/-- What a simple selector says of an attribute: its name, and a value of it. -/
def Simple.mention? : Simple → Option (String × String)
  | .byClass name => some ("class", name)
  | .byId name => some ("id", name)
  | .byAttribute name operator value => some (name, sampleValue operator value)
  | .pseudoClass _ text _ | .pseudoElement _ text _ => some (text, "")
  | .type _ | .universal | .nesting => none

namespace Element

/-- The values that some mentions give under a name, in order and without the empty ones. -/
def valuesOf (name : String) (mentions : List (String × String)) : List String :=
  ((mentions.filter fun m => m.1 = name).map Prod.snd).filter fun value => value ≠ ""

/-- The attributes that some mentions add up to. -/
def collected (mentions : List (String × String)) : List (String × String) :=
  (mentions.map Prod.fst).eraseDups.map fun name => (name, " ".intercalate (valuesOf name mentions))

/-- Attributes with one more mention. -/
def addMention (attributes : List (String × String)) (mention : String × String) :
    List (String × String) :=
  addValue mention.1 mention.2 attributes

variable {name value : String} {names : List String} {mentions : List (String × String)}

/-! ### Names -/

/-- A name that is there already is not added. -/
theorem eraseDups_concat (names : List String) (name : String) :
    (names ++ [name]).eraseDups =
      if name ∈ names then names.eraseDups else names.eraseDups ++ [name] := by
  rw [List.eraseDups_append, List.cons_removeAll, List.nil_removeAll]
  by_cases h : name ∈ names
  · simp [h]
  · simp [h, List.eraseDups_cons]

theorem nodup_eraseDups (names : List String) : names.eraseDups.Nodup := by
  induction names using List.reverseRecOn with
  | nil => exact List.nodup_nil
  | append_singleton names name ih =>
    rw [eraseDups_concat]
    split_ifs with h
    · exact ih
    · exact List.concat_eq_append ▸ ih.concat (mt List.mem_eraseDups.1 h)

/-! ### Values -/

theorem ne_empty_of_mem_valuesOf (h : value ∈ valuesOf name mentions) : value ≠ "" := by
  simpa using (List.mem_filter.1 h).2

/-- A name that is not mentioned has no values. -/
theorem valuesOf_eq_nil (h : name ∉ mentions.map Prod.fst) : valuesOf name mentions = [] := by
  have hnone : (mentions.filter fun m => m.1 = name) = [] := by
    rw [List.filter_eq_nil_iff]
    intro m hm
    have hne : m.1 ≠ name := fun heq => h (heq ▸ List.mem_map_of_mem hm)
    simpa using hne
  rw [valuesOf, hnone]
  rfl

/-- One more value is joined to the values that are joined already. -/
theorem joinValues_intercalate {values : List String} (h : ∀ v ∈ values, v ≠ "") (value : String) :
    joinValues (" ".intercalate values) value =
      " ".intercalate (values ++ [value].filter fun v => v ≠ "") := by
  rw [joinValues]
  by_cases hvalue : value = ""
  · simp [hvalue]
  · by_cases hvalues : values = []
    · simp [hvalue, hvalues]
    · have hold : " ".intercalate values ≠ "" := mt (Text.intercalate_eq_empty_iff h " ").1 hvalues
      simp [hvalue, hold, String.intercalate_append_of_ne_nil hvalues]

/-- One more mention changes the value of its own name only. -/
theorem intercalate_valuesOf_concat (n : String) :
    " ".intercalate (valuesOf n (mentions ++ [(name, value)])) =
      if n = name then joinValues (" ".intercalate (valuesOf n mentions)) value
      else " ".intercalate (valuesOf n mentions) := by
  split_ifs with h
  · subst h
    rw [joinValues_intercalate fun v => ne_empty_of_mem_valuesOf]
    simp [valuesOf]
  · simp [valuesOf, Ne.symm h]

/-! ### Mentions -/

section

variable (f : String → String)

/-- A value under a new name is added at the end. -/
theorem addValue_map_of_notMem (h : name ∉ names) (value : String) :
    addValue name value (names.map fun n => (n, f n)) =
      (names.map fun n => (n, f n)) ++ [(name, value)] := by
  induction names with
  | nil => rfl
  | cons n names ih =>
    obtain ⟨hne, hrest⟩ := not_or.1 (mt List.mem_cons.2 h)
    rw [List.map_cons, addValue, if_neg (Ne.symm hne), ih hrest, List.cons_append]

/-- A value under a name that is there is joined to the value of it. -/
theorem addValue_map_of_mem (hnodup : names.Nodup) (h : name ∈ names) (value : String) :
    addValue name value (names.map fun n => (n, f n)) =
      names.map fun n => (n, if n = name then joinValues (f n) value else f n) := by
  induction names with
  | nil => exact absurd h List.not_mem_nil
  | cons n names ih =>
    obtain ⟨hn, hnodup⟩ := List.nodup_cons.1 hnodup
    rw [List.map_cons, addValue, List.map_cons]
    by_cases heq : n = name
    · -- The name is not there a second time, so the rest stays.
      rw [if_pos heq, if_pos heq]
      congr 1
      refine List.map_congr_left fun m hm => ?_
      have hne : m ≠ name := fun h => hn (heq.trans h.symm ▸ hm)
      rw [if_neg hne]
    · rw [if_neg heq, if_neg heq, ih hnodup ((List.mem_cons.1 h).resolve_left (Ne.symm heq))]

end

/-- One more mention. -/
theorem addValue_collected (mentions : List (String × String)) (name value : String) :
    addValue name value (collected mentions) = collected (mentions ++ [(name, value)]) := by
  rw [collected, collected, List.map_append, List.map_singleton, eraseDups_concat]
  simp only [intercalate_valuesOf_concat]
  split_ifs with h
  · exact addValue_map_of_mem _ (nodup_eraseDups _) (List.mem_eraseDups.2 h) value
  · have hnew : name ∉ (mentions.map Prod.fst).eraseDups := mt List.mem_eraseDups.1 h
    rw [addValue_map_of_notMem _ hnew, List.map_append, List.map_singleton, if_pos rfl,
      valuesOf_eq_nil h]
    congr 1
    · refine List.map_congr_left fun n hn => ?_
      have hne : n ≠ name := fun heq => hnew (heq ▸ hn)
      rw [if_neg hne]
    · simp [joinValues]

/-- All mentions, from the first one on. -/
theorem foldl_addMention (mentions : List (String × String)) :
    mentions.foldl addMention [] = collected mentions := by
  induction mentions using List.reverseRecOn with
  | nil => rfl
  | append_singleton mentions m ih =>
    rw [List.foldl_append, ih, List.foldl_cons, List.foldl_nil, addMention, addValue_collected]

/-! ### Elements -/

/-- A simple selector gives an element a name, if it has none, or one more mention. -/
theorem refine_eq (e : Element) (s : Simple) :
    e.refine s = ⟨e.name <|> s.typeName?, s.mention?.toList.foldl addMention e.attributes⟩ := by
  cases s <;> simp [refine, add, addMention, Simple.typeName?, Simple.mention?]

/-- A compound gives an element its first name and all its mentions. -/
theorem merge_eq (e : Element) (c : Compound) :
    e.merge c = ⟨e.name <|> c.findSome? Simple.typeName?,
      (c.filterMap Simple.mention?).foldl addMention e.attributes⟩ := by
  induction c generalizing e with
  | nil => cases e; simp [merge]
  | cons s c ih =>
    have hname : (s :: c).findSome? Simple.typeName? =
        (s.typeName? <|> c.findSome? Simple.typeName?) := by
      rw [List.findSome?_cons]
      cases s.typeName? <;> rfl
    have hmentions : (s :: c).filterMap Simple.mention? =
        s.mention?.toList ++ c.filterMap Simple.mention? := by
      rw [List.filterMap_cons]
      cases s.mention? <;> rfl
    rw [merge, List.foldl_cons, ← merge, ih, refine_eq, hname, hmentions, List.foldl_append]
    congr 1
    cases e.name <;> rfl

/-- Some compounds that are merged into one element, one after the other, are merged as if
    they were written as one compound. The element has the name of the first type selector
    among their simples, if there is one. Its attributes have different names, which stand
    in the order of their first mentions, and the value of an attribute is what is given
    under its name, in order and without empty values, with a blank between two values. -/
theorem merged_collects_mentions (compounds : List Compound) :
    let e := compounds.foldl merge blank
    let mentions := compounds.flatten.filterMap Simple.mention?
    e = ofCompound compounds.flatten ∧
    e.name = compounds.flatten.findSome? Simple.typeName? ∧
    (e.attributes.map Prod.fst).Nodup ∧
    e.attributes.map Prod.fst = (mentions.map Prod.fst).eraseDups ∧
    ∀ name value, (name, value) ∈ e.attributes →
      value = " ".intercalate (valuesOf name mentions) := by
  intro e mentions
  have hflat : e = ofCompound compounds.flatten := List.foldl_flatten.symm
  have hmerge : e = ⟨compounds.flatten.findSome? Simple.typeName?, collected mentions⟩ := by
    rw [hflat, ofCompound, merge_eq]
    congr 1
    exact foldl_addMention mentions
  have hnames : e.attributes.map Prod.fst = (mentions.map Prod.fst).eraseDups := by
    rw [hmerge, collected, List.map_map]
    exact List.map_id _
  refine ⟨hflat, by rw [hmerge], hnames ▸ nodup_eraseDups _, hnames, fun name value h => ?_⟩
  rw [hmerge] at h
  obtain ⟨n, -, hn⟩ := List.mem_map.1 h
  obtain ⟨rfl, rfl⟩ := Prod.mk.inj hn
  rfl

/-- `.a:hover[class~=b]` with `&[class].c` below it. -/
example :
    ([[.byClass "a", .pseudoClass "hover" ":hover" [], .byAttribute "class" (some "~=") (some "b")],
      [.nesting, .byAttribute "class" none none, .byClass "c"]].foldl merge blank).attributes =
      [("class", "a  … b …  c"), (":hover", "")] := by
  decide

end Element

end StyleLens
