import Mathlib.Data.List.DropRight
import StyleLens.Docs.Builtin
import StyleLens.Docs.Lookup
import StyleLens.Proofs.Docs.Layers

/-!
# Names that lead to their entries

An entry is kept under the key of its name, and a name is looked up by a search key.
The two are not made alike: the search key also loses the blanks around the name and
the `*` or `_` in front of it. It is a part of the key (`Entry.searchChars_sublist`),
and a name without its vendor's mark is shorter still. So an entry is found by its own
name exactly if the two keys are equal (`Dataset.Keyed.lookUp?_eq_some_self_iff`).

They are equal exactly if the name is tidy (`Entry.Tidy`): it has no blanks at its ends,
and no `*` or `_` where the name proper starts. All builtin names are
(`Dataset.lookUp?_builtin_self`).
-/

namespace StyleLens

/-! ### Trimmed texts -/

namespace Text

variable {c : Char} {cs : List Char}

theorem trim_eq (cs : List Char) : trim cs = (cs.dropWhile isBlank).rdropWhile isBlank := rfl

theorem trim_sublist (cs : List Char) : (trim cs).Sublist cs :=
  (List.rdropWhile_prefix ..).sublist.trans (List.dropWhile_sublist _)

theorem trim_cons_of_blank (h : isBlank c) : trim (c :: cs) = trim cs := by
  rw [trim_eq, trim_eq, List.dropWhile_cons_of_pos h]

/-- A text that does not start with a blank loses only those at its end. -/
theorem trim_cons_of_not_blank (h : ¬isBlank c) :
    trim (c :: cs) = (c :: cs).rdropWhile isBlank := by
  rw [trim_eq, List.dropWhile_cons_of_neg h]

theorem dropWhile_eq_self_iff_head? {p : Char → Bool} :
    cs.dropWhile p = cs ↔ ∀ c ∈ cs.head?, ¬p c := by
  cases cs <;> simp [List.dropWhile_eq_self_iff]

/-- A text without blanks at its ends is trimmed already. -/
theorem trim_eq_self (hhead : ∀ c ∈ cs.head?, ¬isBlank c)
    (hlast : ∀ c ∈ cs.getLast?, ¬isBlank c) : trim cs = cs := by
  rw [trim_eq, dropWhile_eq_self_iff_head?.2 hhead, List.rdropWhile_eq_self_iff]
  exact fun hne => hlast _ (List.getLast?_eq_some_getLast hne)

/-- A text that was trimmed does not end with a blank. -/
theorem not_blank_of_getLast?_trim (h : (trim cs).getLast? = some c) : ¬isBlank c := by
  have hne : trim cs ≠ [] := by
    intro hnil
    rw [hnil] at h
    cases h
  rw [List.getLast?_eq_some_getLast hne, Option.some.injEq] at h
  exact h ▸ List.rdropWhile_last_not isBlank (cs.dropWhile isBlank) hne

theorem getLast?_of_suffix {cs ds : List Char} (h : cs <:+ ds) (hne : cs ≠ []) :
    cs.getLast? = ds.getLast? := by
  obtain ⟨front, rfl⟩ := h
  rw [List.getLast?_append, List.getLast?_eq_some_getLast hne, Option.some_or]

/-- Behind characters that are not blank, a text that was trimmed keeps no more than the
    text itself. -/
theorem dropWhile_trim_sublist {p : Char → Bool} (hp : ∀ c, p c → ¬isBlank c) (cs : List Char) :
    ((trim cs).dropWhile p).Sublist (cs.dropWhile p) := by
  cases cs with
  | nil => exact List.Sublist.refl _
  | cons c cs =>
    by_cases hc : isBlank c
    · -- A blank in front makes the text itself keep all.
      rw [List.dropWhile_cons_of_neg fun hpc => hp c hpc hc]
      exact (List.dropWhile_sublist p).trans (trim_sublist _)
    · obtain ⟨blanks, hblanks⟩ := List.rdropWhile_prefix isBlank (c :: cs)
      rw [trim_cons_of_not_blank hc]
      generalize (c :: cs).rdropWhile isBlank = front at hblanks ⊢
      rw [← hblanks, List.dropWhile_append]
      split_ifs with hall
      · rw [List.isEmpty_iff.1 hall]
        exact List.nil_sublist _
      · exact List.sublist_append_left ..

end Text

/-! ### Keys -/

namespace Entry

/-- The characters that stand in front of the name proper. -/
def isSign (c : Char) : Bool := c = ':' ∨ c = '@'

/-- The characters that hide a declaration from readers that do not know them. -/
def isHack (c : Char) : Bool := c = '*' ∨ c = '_'

/-- The key of a name before its letters are made small. -/
def keyChars (name : String) : List Char := name.toList.dropWhile isSign

/-- The search key of a name before its letters are made small. -/
def searchChars (name : String) : List Char :=
  ((Text.trim name.toList).dropWhile isSign).dropWhile isHack

/-- Whether a name is looked up as it is kept: there are no blanks at its ends, and the name
    proper does not start with `*` or `_`. -/
def Tidy (name : String) : Prop :=
  (∀ c ∈ name.toList.head?, ¬Text.isBlank c) ∧ (∀ c ∈ name.toList.getLast?, ¬Text.isBlank c) ∧
    ∀ c ∈ (keyChars name).head?, ¬isHack c

instance (name : String) : Decidable (Tidy name) :=
  decidable_of_iff (name.toList.head?.all (!Text.isBlank ·) ∧
      name.toList.getLast?.all (!Text.isBlank ·) ∧ (keyChars name).head?.all (!isHack ·))
    (by simp [Tidy, Option.all_eq_true])

theorem keyOf_eq (name : String) : keyOf name = String.ofList (Text.lower (keyChars name)) := rfl

theorem searchKey_eq (name : String) :
    Dataset.searchKey name = String.ofList (Text.lower (searchChars name)) := rfl

theorem not_isBlank_of_isSign {c : Char} (h : isSign c) : ¬Text.isBlank c := by
  simp only [isSign, decide_eq_true_eq] at h
  rcases h with rfl | rfl <;> decide

/-- The search key is a part of the key, whichever of them loses what. -/
theorem searchChars_sublist (name : String) : (searchChars name).Sublist (keyChars name) :=
  (List.dropWhile_sublist isHack).trans
    (Text.dropWhile_trim_sublist (fun _ => not_isBlank_of_isSign) name.toList)

theorem length_searchKey_le (name : String) :
    (Dataset.searchKey name).toList.length ≤ (keyOf name).toList.length := by
  rw [searchKey_eq, keyOf_eq, String.toList_ofList, String.toList_ofList]
  simpa [Text.lower] using (searchChars_sublist name).length_le

theorem searchKey_eq_keyOf_iff_chars (name : String) :
    Dataset.searchKey name = keyOf name ↔ searchChars name = keyChars name := by
  rw [searchKey_eq, keyOf_eq, String.ofList_inj]
  refine ⟨fun h => (searchChars_sublist name).eq_of_length ?_, congrArg Text.lower⟩
  simpa [Text.lower] using congrArg List.length h

/-- Nothing is lost from a tidy name. -/
theorem Tidy.searchChars_eq {name : String} (h : Tidy name) : searchChars name = keyChars name := by
  obtain ⟨hhead, hlast, hproper⟩ := h
  rw [searchChars, Text.trim_eq_self hhead hlast]
  exact Text.dropWhile_eq_self_iff_head?.2 hproper

/-- A name that loses no more than the signs in front is tidy, if something is left of it. -/
theorem tidy_of_searchChars_eq {name : String} (h : searchChars name = keyChars name)
    (hne : keyChars name ≠ []) : Tidy name := by
  -- What is left without blanks and signs is between the two, so all are equal.
  have hbare : (Text.trim name.toList).dropWhile isSign = keyChars name := by
    refine (Text.dropWhile_trim_sublist (fun _ => not_isBlank_of_isSign) _).antisymm ?_
    change (keyChars name).Sublist _
    rw [← h]
    exact List.dropWhile_sublist isHack
  rw [searchChars, hbare] at h
  refine ⟨fun c hc hblank => ?_, fun c hc => ?_, Text.dropWhile_eq_self_iff_head?.1 h⟩
  · -- A blank in front is in the key, which what is left has no room for.
    obtain ⟨rest, hrest⟩ := List.head?_eq_some_iff.1 hc
    have hsign : ¬isSign c := fun hs => not_isBlank_of_isSign hs hblank
    rw [keyChars, hrest, Text.trim_cons_of_blank hblank, List.dropWhile_cons_of_neg hsign] at hbare
    have hlength := ((List.dropWhile_sublist isSign).trans (Text.trim_sublist rest)).length_le
    rw [hbare, List.length_cons] at hlength
    omega
  · -- The key ends as the name does, and what is left as the trimmed name does.
    have hkey : keyChars name <:+ name.toList := List.dropWhile_suffix _
    have htrim : keyChars name <:+ Text.trim name.toList := hbare ▸ List.dropWhile_suffix _
    have hlast : (Text.trim name.toList).getLast? = some c := by
      rw [← Text.getLast?_of_suffix htrim hne, Text.getLast?_of_suffix hkey hne]
      exact hc
    exact Text.not_blank_of_getLast?_trim hlast

/-- A name is looked up as it is kept exactly if it is tidy. -/
theorem searchKey_eq_keyOf_iff {name : String} (h : Dataset.searchKey name ≠ "") :
    Dataset.searchKey name = keyOf name ↔ Tidy name := by
  rw [searchKey_eq_keyOf_iff_chars]
  refine ⟨fun heq => tidy_of_searchChars_eq heq fun hnil => h ?_, Tidy.searchChars_eq⟩
  rw [searchKey_eq, heq, hnil]
  rfl

end Entry

/-! ### Look-ups -/

namespace Dataset

variable {d other : Dataset} {topic : Topic} {key : String} {e : Entry}

/-- A name without a vendor's mark is shorter. -/
theorem length_lt_of_withoutVendor? {name base : String} (h : withoutVendor? name = some base) :
    base.toList.length < name.toList.length := by
  rw [withoutVendor?] at h
  split at h
  · next c rest hrest =>
    obtain ⟨mark, hmark, hhead⟩ := List.exists_of_findSome?_eq_some hrest
    rw [Text.dropHead?_eq_some_iff] at hhead
    have hmarks : ∀ mark ∈ vendorMarks, 0 < mark.toList.length := by decide
    have hpos := hmarks mark hmark
    rw [← Option.some.inj h, hhead, String.toList_ofList, List.length_append]
    omega
  · cases h

/-- Each entry is kept under the key of its name. -/
def Keyed (d : Dataset) : Prop :=
  ∀ topic key e, d.get? topic key = some e → Entry.keyOf e.name = key

theorem keyed_ofFile (file : DataFile) : Keyed (ofFile file) := by
  intro topic key e h
  rw [get?_ofFile] at h
  simpa using (List.mem_filter.1 (List.mem_of_getLast? h)).2

theorem Keyed.merge (h : Keyed d) (hother : Keyed other) : Keyed (d.merge other) := by
  intro topic key e he
  rw [get?_merge, Option.or_eq_some_iff] at he
  rcases he with he | ⟨-, he⟩
  · exact hother topic key e he
  · exact h topic key e he

/-- An entry is found by its own name exactly if it is kept where its name is looked up. -/
theorem Keyed.lookUp?_eq_some_self_iff (h : Keyed d) (hstored : d.get? topic key = some e)
    (hname : searchKey e.name ≠ "") :
    d.lookUp? topic e.name = some e ↔ searchKey e.name = Entry.keyOf e.name := by
  obtain rfl := h topic key e hstored
  rw [lookUp?, if_neg hname, Option.orElse_eq_orElse, Option.orElse_eq_or, Option.or_eq_some_iff]
  constructor
  · rintro (hfound | ⟨-, hfound⟩)
    · exact (h topic _ e hfound).symm
    · -- The key is no shorter than the search key, so it is not that without a mark.
      obtain ⟨base, hbase, hget⟩ := Option.bind_eq_some_iff.1 hfound
      have hshorter := length_lt_of_withoutVendor? hbase
      have hlonger := Entry.length_searchKey_le e.name
      rw [h topic base e hget] at hlonger
      omega
  · intro hkey
    rw [hkey]
    exact .inl hstored

/-- The documentation that is builtin or read from texts, and laid over each other. -/
inductive Built : Dataset → Prop
  | builtin : Built builtin
  | ofText {text : String} {d : Dataset} (h : ofText text = .ok d) : Built d
  | merge {d other : Dataset} (h : Built d) (hother : Built other) : Built (d.merge other)

theorem Built.keyed (h : Built d) : Keyed d := by
  induction h with
  | builtin => exact keyed_ofFile _
  | @ofText text d h =>
    have hloads := loads_ofText text
    rw [h] at hloads
    generalize DataFile.ofText? text = file? at hloads
    cases hloads with
    | ok file => exact keyed_ofFile file
  | merge _ _ ih ihother => exact ih.merge ihother

/-- An entry is found by its own name exactly if it is kept where the name is looked up,
    which is so exactly if the name is tidy. -/
theorem own_name_leads_to_entry_iff (hd : Built d) (hstored : d.get? topic key = some e)
    (hname : searchKey e.name ≠ "") :
    (d.lookUp? topic e.name = some e ↔ searchKey e.name = Entry.keyOf e.name) ∧
      (searchKey e.name = Entry.keyOf e.name ↔ Entry.Tidy e.name) :=
  ⟨hd.keyed.lookUp?_eq_some_self_iff hstored hname, Entry.searchKey_eq_keyOf_iff hname⟩

/-- A text with one pseudo-element. -/
def barText : String := "\x7b\"pseudoElements\": [\x7b\"name\": \"::bar\"\x7d]\x7d"

/-- A text with the pseudo-element of one vendor. -/
def vendorText : String := "\x7b\"pseudoElements\": [\x7b\"name\": \"::-webkit-Bar\"\x7d]\x7d"

/-- The documentation of a pseudo-element that has just a name. -/
def named (name : String) : Dataset := ofFile ⟨[], [], [⟨name, none, none, none, []⟩], []⟩

/-- A pseudo-element of one vendor is found by its name, beside the one without the mark. -/
theorem own_name_leads_to_entry_iff_vendor :
    ofText barText = .ok (named "::bar") ∧ ofText vendorText = .ok (named "::-webkit-Bar") ∧
      ((named "::bar").merge (named "::-webkit-Bar")).lookUp? .pseudoElement "::-webkit-Bar" =
        some ⟨"::-webkit-Bar", none, none, none, []⟩ := by
  have hbar : ofText barText = .ok (named "::bar") := rfl
  have hvendor : ofText vendorText = .ok (named "::-webkit-Bar") := rfl
  have hstored : ((named "::bar").merge (named "::-webkit-Bar")).get? .pseudoElement "-webkit-bar" =
      some ⟨"::-webkit-Bar", none, none, none, []⟩ := rfl
  have hbuilt := (Built.ofText hbar).merge (.ofText hvendor)
  obtain ⟨hfound, htidy⟩ := own_name_leads_to_entry_iff hbuilt hstored (by decide)
  exact ⟨hbar, hvendor, hfound.2 (htidy.2 (by decide))⟩

/-- A text with a property whose name has a `*` in front. -/
def hackText : String := "\x7b\"properties\": [\x7b\"name\": \"*x\"\x7d]\x7d"

/-- An entry whose name has a `*` in front is not found by it. -/
theorem hack_name_misses_entry :
    ∃ d, ofText hackText = .ok d ∧ d.get? .property "*x" = some ⟨"*x", none, none, none, []⟩ ∧
      searchKey "*x" ≠ "" ∧ d.lookUp? .property "*x" = none :=
  ⟨ofFile ⟨[⟨"*x", none, none, none, []⟩], [], [], []⟩, rfl, rfl, by decide, rfl⟩

/-! ### Builtin names -/

theorem tidy_builtin (topic : Topic) :
    ∀ e ∈ DataFile.group ⟨Builtin.properties, Builtin.pseudoClasses, Builtin.pseudoElements,
      Builtin.atRules⟩ topic, Entry.Tidy e.name ∧ Entry.keyChars e.name ≠ [] := by
  cases topic <;> decide +kernel

/-- Every builtin entry is found by its own name. -/
theorem lookUp?_builtin_self (h : builtin.get? topic key = some e) :
    builtin.lookUp? topic e.name = some e := by
  have hmem := h
  rw [builtin, get?_ofFile] at hmem
  obtain ⟨htidy, hne⟩ := tidy_builtin topic e (List.mem_filter.1 (List.mem_of_getLast? hmem)).1
  have hname : searchKey e.name ≠ "" := by
    rw [Entry.searchKey_eq, htidy.searchChars_eq]
    simpa [Text.lower] using hne
  rw [Built.builtin.keyed.lookUp?_eq_some_self_iff h hname, Entry.searchKey_eq_keyOf_iff hname]
  exact htidy

end Dataset

end StyleLens
