import Mathlib.Data.Finset.Card
import Mathlib.Data.List.Induction
import StyleLens.Proofs.Document.Changes
import StyleLens.Workspace

/-!
# Documents by their history

An editor makes its calls about many documents in any order: it opens documents
that are open, and changes or closes some that are not. Each call names one
document (`Call.uri`) and is about that one only, so what a workspace holds
under a URI is made by the calls with that URI alone (`Workspace.get?_run`).

Among these, the last opening starts the document over, and a closing after it
ends it. In between, each call changes the text and sets the version
(`Workspace.get?_run_of_open`). So a document is told by its last opening and by
the changes since then, and there is one exactly if it was not closed since
then (`Workspace.get?_run_eq_some_iff`).
-/

namespace StyleLens

/-! ### Calls -/

/-- What an editor sends of a document that it opens. -/
structure Opening where
  languageId : String
  content : String
  version : Int

/-- What an editor asks of a workspace, for the document with a URI. -/
inductive Call where
  | load (uri : String) (o : Opening)
  | edit (uri : String) (changes : List Change) (version : Int)
  | drop (uri : String)

/-- The URI of the document that a call names. -/
def Call.uri : Call → String
  | load uri _ | edit uri _ _ | drop uri => uri

/-- The changes and the version that a call has for the document `u`. -/
def Call.update? (u : String) : Call → Option (List Change × Int)
  | edit uri changes version => if uri = u then some (changes, version) else none
  | load _ _ | drop _ => none

/-- A document that was opened and had some updates since then: the changes of all
    of them were applied to its text in order, and its version is the last one. -/
def Opening.document (parse : Parser) (u : String) (o : Opening)
    (updates : List (List Change × Int)) : Document :=
  let content := (updates.flatMap Prod.fst).foldl Text.change o.content
  ⟨u, .ofLanguageId o.languageId, (updates.map Prod.snd).getLastD o.version, content,
    parse content⟩

/-- Among some calls, `o` is the last opening of `u`, and `later` are the calls
    after it. -/
structure LastLoad (u : String) (calls : List Call) (o : Opening) (later : List Call) : Prop where
  at_load : ∃ before, calls = before ++ .load u o :: later
  no_load : ∀ o', .load u o' ∉ later

/-- Whether `u` was opened, and not closed after its last opening. -/
def StaysOpen (u : String) (calls : List Call) : Prop :=
  ∃ o later, LastLoad u calls o later ∧ .drop u ∉ later

/-- A call that neither opens nor closes `u` leaves it open. -/
theorem StaysOpen.concat {u : String} {calls : List Call} {c : Call} (h : StaysOpen u calls)
    (hload : ∀ o, c ≠ .load u o) (hdrop : c ≠ .drop u) : StaysOpen u (calls ++ [c]) := by
  obtain ⟨o, later, ⟨⟨before, rfl⟩, hlast⟩, hopen⟩ := h
  refine ⟨o, later ++ [c], ⟨⟨before, by simp⟩, fun o' hmem => ?_⟩, fun hmem => ?_⟩
  · rcases List.mem_append.1 hmem with hmem | hmem
    · exact hlast o' hmem
    · exact hload o' (List.mem_singleton.1 hmem).symm
  · rcases List.mem_append.1 hmem with hmem | hmem
    · exact hopen hmem
    · exact hdrop (List.mem_singleton.1 hmem).symm

/-- A document that is updated once more. -/
theorem Opening.update_document (parse : Parser) (u : String) (o : Opening)
    (updates : List (List Change × Int)) (changes : List Change) (version : Int) :
    ((o.document parse u updates).update parse changes version).1 =
      o.document parse u (updates ++ [(changes, version)]) := by
  rw [Document.update_eq rfl]
  simp [Opening.document]

namespace Workspace

variable {parse : Parser} {w : Workspace} {u : String}

/-- A workspace after a call. -/
def call (parse : Parser) (w : Workspace) : Call → Workspace
  | .load uri o => (w.load parse uri o.languageId o.content o.version).1
  | .edit uri changes version => (w.edit parse uri changes version).1
  | .drop uri => w.drop uri

/-- A workspace after some calls in order. -/
def run (parse : Parser) (w : Workspace) (calls : List Call) : Workspace :=
  calls.foldl (call parse) w

theorem run_concat (w : Workspace) (calls : List Call) (c : Call) :
    w.run parse (calls ++ [c]) = (w.run parse calls).call parse c := by
  rw [run, List.foldl_append, List.foldl_cons, List.foldl_nil, run]

/-! ### One call -/

/-- What a call makes of the document that it names. -/
def onDocument (parse : Parser) (d? : Option Document) : Call → Option Document
  | .load uri o => some (o.document parse uri [])
  | .edit _ changes version => d?.map fun d => (d.update parse changes version).1
  | .drop _ => none

/-- A call is about the document that it names, and about no other. -/
theorem get?_call (w : Workspace) (c : Call) (u : String) :
    (w.call parse c).get? u = if c.uri = u then onDocument parse (w.get? u) c else w.get? u := by
  cases c with
  | load uri o => exact Index.get?_insert ..
  | edit uri changes version =>
    rw [call, edit]
    cases hd : w.get? uri with
    | none =>
      -- Nothing is open there, and the call leaves it so.
      split_ifs with h
      · obtain rfl : uri = u := h
        rw [hd, onDocument, Option.map_none]
      · rfl
    | some d =>
      refine (Index.get?_insert ..).trans ?_
      split_ifs with h h' h'
      · rw [← h, hd, onDocument, Option.map_some]
      · exact absurd h h'
      · exact absurd h' h
      · rfl
  | drop uri => exact Index.get?_erase ..

theorem get?_call_self (w : Workspace) (c : Call) :
    (w.call parse c).get? c.uri = onDocument parse (w.get? c.uri) c := by
  rw [get?_call, if_pos rfl]

/-- A call about another document leaves this one as it is. -/
theorem get?_call_of_ne {c : Call} (h : c.uri ≠ u) : (w.call parse c).get? u = w.get? u := by
  rw [get?_call, if_neg h]

/-! ### Many calls -/

/-- What is under a URI after some calls is made by those that name it. -/
theorem get?_run (w : Workspace) (calls : List Call) (u : String) :
    (w.run parse calls).get? u =
      (calls.filter (·.uri = u)).foldl (onDocument parse) (w.get? u) := by
  induction calls generalizing w with
  | nil => rfl
  | cons c calls ih =>
    rw [run, List.foldl_cons, ← run, ih, get?_call, List.filter_cons]
    by_cases h : c.uri = u <;> simp [h]

/-- Between openings and closings of a document, its updates add up. -/
theorem get?_run_of_open {o : Opening} {later : List Call} {updates : List (List Change × Int)}
    (hload : ∀ o', .load u o' ∉ later) (hdrop : .drop u ∉ later)
    (hw : w.get? u = some (o.document parse u updates)) :
    (w.run parse later).get? u =
      some (o.document parse u (updates ++ later.filterMap (Call.update? u))) := by
  induction later generalizing w updates with
  | nil => simpa [run] using hw
  | cons c later ih =>
    have hload' : ∀ o', .load u o' ∉ later := fun o' h => hload o' (List.mem_cons_of_mem _ h)
    have hdrop' : .drop u ∉ later := fun h => hdrop (List.mem_cons_of_mem _ h)
    rw [run, List.foldl_cons, ← run]
    by_cases hc : c.uri = u
    · cases c with
      | load uri o' =>
        obtain rfl : uri = u := hc
        exact absurd List.mem_cons_self (hload o')
      | edit uri changes version =>
        obtain rfl : uri = u := hc
        have hnext : (w.call parse (.edit uri changes version)).get? uri =
            some (o.document parse uri (updates ++ [(changes, version)])) := by
          refine (get?_call_self w (.edit uri changes version)).trans ?_
          rw [Call.uri, hw, onDocument, Option.map_some, Opening.update_document]
        have hsome : Call.update? uri (.edit uri changes version) = some (changes, version) :=
          if_pos rfl
        rw [ih hload' hdrop' hnext, List.filterMap_cons_some hsome, List.append_assoc,
          List.singleton_append]
      | drop uri =>
        obtain rfl : uri = u := hc
        exact absurd List.mem_cons_self hdrop
    · have hnone : Call.update? u c = none := by
        cases c with
        | edit uri changes version => exact if_neg hc
        | load uri o' => rfl
        | drop uri => rfl
      rw [ih hload' hdrop' ((get?_call_of_ne hc).trans hw), List.filterMap_cons_none hnone]

/-- A document that is there was opened and not closed since. -/
theorem staysOpen_of_isSome {calls : List Call} (h : ((empty.run parse calls).get? u).isSome) :
    StaysOpen u calls := by
  induction calls using List.reverseRecOn with
  | nil => exact absurd h Bool.false_ne_true
  | append_singleton calls c ih =>
    rw [run_concat, get?_call] at h
    split_ifs at h with hc
    · cases c with
      | load uri o =>
        obtain rfl : uri = u := hc
        exact ⟨o, [], ⟨⟨calls, rfl⟩, fun _ => List.not_mem_nil⟩, List.not_mem_nil⟩
      | edit uri changes version =>
        rw [onDocument, Option.isSome_map] at h
        exact (ih h).concat (fun o => by rintro ⟨⟩) (by rintro ⟨⟩)
      | drop uri => exact absurd h Bool.false_ne_true
    · -- The call is about another document.
      exact (ih h).concat (fun o he => hc (he ▸ rfl)) fun he => hc (he ▸ rfl)

/-- The document under a URI is the one last opened there, with its updates since
    then, if it was not closed since then. -/
theorem get?_run_eq_some_iff (calls : List Call) (u : String) (d : Document) :
    (empty.run parse calls).get? u = some d ↔
      ∃ o later, LastLoad u calls o later ∧ .drop u ∉ later ∧
        d = o.document parse u (later.filterMap (Call.update? u)) := by
  have hopened : ∀ o later, LastLoad u calls o later → .drop u ∉ later →
      (empty.run parse calls).get? u =
        some (o.document parse u (later.filterMap (Call.update? u))) := by
    rintro o later ⟨⟨before, rfl⟩, hlast⟩ hdrop
    have hload : ((empty.run parse before).call parse (.load u o)).get? u =
        some (o.document parse u []) := get?_call_self _ (.load u o)
    rw [run, List.foldl_append, List.foldl_cons, ← run, ← run]
    exact get?_run_of_open hlast hdrop hload
  constructor
  · intro hd
    obtain ⟨o, later, hlast, hdrop⟩ := staysOpen_of_isSome (Option.isSome_of_eq_some hd)
    exact ⟨o, later, hlast, hdrop, Option.some.inj (hd.symm.trans (hopened o later hlast hdrop))⟩
  · rintro ⟨o, later, hlast, hdrop, rfl⟩
    exact hopened o later hlast hdrop

/-- There is a document exactly under the URIs that stay open. -/
theorem isSome_get?_run_iff (calls : List Call) (u : String) :
    ((empty.run parse calls).get? u).isSome ↔ StaysOpen u calls := by
  refine ⟨staysOpen_of_isSome, fun ⟨o, later, hlast, hdrop⟩ => ?_⟩
  exact Option.isSome_of_eq_some
    ((get?_run_eq_some_iff calls u _).2 ⟨o, later, hlast, hdrop, rfl⟩)

/-- Documents are isolated, and each is what its history makes of it. Under a URI
    there is what the calls that name it make by themselves. There is a document
    exactly if the URI was opened and not closed after its last opening, and then
    it is the one of that opening with all changes since then. The open documents
    are as many as the URIs that stay open. -/
theorem isolated_and_replayed (parse : Parser) (calls : List Call) :
    (∀ u, (empty.run parse calls).get? u =
        (empty.run parse (calls.filter (·.uri = u))).get? u ∧
      (((empty.run parse calls).get? u).isSome ↔ StaysOpen u calls) ∧
      ∀ d, (empty.run parse calls).get? u = some d ↔
        ∃ o later, LastLoad u calls o later ∧ .drop u ∉ later ∧
          d = o.document parse u (later.filterMap (Call.update? u))) ∧
    ∃ uris : Finset String, (∀ u, u ∈ uris ↔ StaysOpen u calls) ∧
      (empty.run parse calls).size = uris.card := by
  refine ⟨fun u => ⟨?_, isSome_get?_run_iff calls u, get?_run_eq_some_iff calls u⟩, ?_⟩
  · rw [get?_run, get?_run, List.filter_filter]
    simp only [Bool.and_self]
  · -- The keys of the workspace are the URIs that stay open, each of them once.
    refine ⟨(empty.run parse calls).documents.keys.toFinset, fun u => ?_, ?_⟩
    · rw [List.mem_toFinset, ← Index.isSome_get?_iff]
      exact isSome_get?_run_iff calls u
    · exact (List.length_map ..).symm.trans
        (List.toFinset_card_of_nodup (empty.run parse calls).documents.nodup).symm

end Workspace

end StyleLens
