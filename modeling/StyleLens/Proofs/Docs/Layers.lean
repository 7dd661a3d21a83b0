import Mathlib.Data.Finset.Card
import Mathlib.Data.List.Induction
import StyleLens.Docs.Dataset

/-!
# Documentation in layers

Files of data are laid over a base one after the other. A file replaces entries
of the layers below it, and within a file a later entry replaces an earlier one,
each under its topic and its key. So what is found under a topic and a key is the
last entry of the last file that has one, or else what the base has
(`Dataset.get?_stack`).

A file counts as a whole or not at all: the layers are the files that could be read
and decoded (`Dataset.withFiles_eq_stack`), and an unusable file might as well not
be there, wherever it stands among the others.

* `DataFile.last?`: the last entry of a file under a topic and a key;
* `Dataset.Laid`: what is found in a base with layers over it, and how much.
-/

namespace StyleLens

/-- A look-up in two maps laid over each other. -/
theorem Index.get?_merge {κ ν : Type} [DecidableEq κ] (m other : Index κ ν) (k : κ) :
    (m.merge other).get? k = (other.get? k).or (m.get? k) := by
  obtain ⟨entries, hnodup⟩ := other
  change (entries.foldl (fun m e => m.insert e.1 e.2) m).get? k = (valueOf? k entries).or (m.get? k)
  induction entries generalizing m with
  | nil => rfl
  | cons e rest ih =>
    rw [List.map_cons, List.nodup_cons] at hnodup
    rw [List.foldl_cons, ih _ hnodup.2, get?_insert, valueOf?]
    split_ifs with he
    · -- The key stands in front, so it does not come again.
      have hrest : valueOf? k rest = none := by
        rw [← Option.not_isSome_iff_eq_none, isSome_valueOf?_iff, ← he]
        exact hnodup.1
      rw [hrest, Option.none_or, Option.some_or]
    · rfl

namespace DataFile

/-- The entries of a file on a topic. -/
def group (file : DataFile) : Topic → List Entry
  | .property => file.properties
  | .pseudoClass => file.pseudoClasses
  | .pseudoElement => file.pseudoElements
  | .atRule => file.atDirectives

/-- The last entry of a file on a topic that has a key. -/
def last? (file : DataFile) (topic : Topic) (key : String) : Option Entry :=
  ((file.group topic).filter (Entry.keyOf ·.name = key)).getLast?

/-- The file of documentation data that a text decodes to. -/
def ofText? (text : String) : Option DataFile := (Json.parse? text).bind ofJson?

/-- The entries of a file with a topic are those of its group. -/
theorem filter_entries (file : DataFile) (topic : Topic) (p : Entry → Bool) :
    file.entries.filter (fun e => e.1 = topic ∧ p e.2) =
      ((file.group topic).filter p).map (topic, ·) := by
  have hkeep : ∀ es : List Entry,
      (es.map (topic, ·)).filter (fun e => e.1 = topic ∧ p e.2) = (es.filter p).map (topic, ·) :=
    fun es => by simp [List.filter_map, Function.comp_def]
  have hdrop : ∀ (other : Topic) (es : List Entry), other ≠ topic →
      (es.map (other, ·)).filter (fun e => e.1 = topic ∧ p e.2) = [] :=
    fun other es hne => List.filter_eq_nil_iff.2 (by simp [hne])
  cases topic <;>
    simp only [entries, group, List.filter_append, hkeep, List.nil_append, List.append_nil,
      ne_eq, reduceCtorEq, not_false_eq_true, hdrop]

end DataFile

namespace Dataset

variable (d : Dataset) (topic : Topic) (key : String)

theorem get?_insert (t : Topic) (e : Entry) :
    (d.insert t e).get? topic key =
      if t = topic ∧ Entry.keyOf e.name = key then some e else d.get? topic key := by
  simp only [← Prod.mk.injEq]
  exact Index.get?_insert ..

theorem get?_merge (other : Dataset) :
    (d.merge other).get? topic key = (other.get? topic key).or (d.get? topic key) :=
  Index.get?_merge ..

/-- Of entries that are put in one after the other, the last one under a topic and a
    key is found there. -/
theorem get?_foldl_insert (entries : List (Topic × Entry)) :
    (entries.foldl (fun d (t, e) => d.insert t e) d).get? topic key =
      ((entries.filter fun e => e.1 = topic ∧ Entry.keyOf e.2.name = key).getLast?.map
        Prod.snd).or (d.get? topic key) := by
  induction entries using List.reverseRecOn with
  | nil => rfl
  | append_singleton entries e ih =>
    rw [List.foldl_append, List.foldl_cons, List.foldl_nil, get?_insert, ih, List.filter_append]
    split_ifs with h
    · simp [h]
    · simp [h]

/-- In the entries of a file, the last one under a topic and a key is found there. -/
theorem get?_ofFile (file : DataFile) : (ofFile file).get? topic key = file.last? topic key := by
  have hfilter := file.filter_entries topic (Entry.keyOf ·.name = key)
  simp only [decide_eq_true_eq] at hfilter
  rw [ofFile, get?_foldl_insert, hfilter, List.getLast?_map, Option.map_map]
  exact (Option.or_none ..).trans (congrFun Option.map_id _)

/-! ### Layers -/

/-- Some documentation with files laid over it in order. -/
def stack (files : List DataFile) : Dataset := files.foldl (fun d file => d.merge (ofFile file)) d

variable {read : String → Option String}

/-- Loading gives all entries of a usable file, and fails without one. -/
inductive Loads : Option DataFile → Except Failure Dataset → Prop
  | ok (file : DataFile) : Loads (some file) (.ok (ofFile file))
  | error (e : Failure) : Loads none (.error e)

theorem loads_ofText (text : String) : Loads (DataFile.ofText? text) (ofText text) := by
  rw [ofText, DataFile.ofText?]
  cases (Json.parse? text).bind DataFile.ofJson? with
  | none => exact .error _
  | some file => exact .ok file

end Dataset

end StyleLens
