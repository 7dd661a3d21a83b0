import Mathlib.Data.List.Chain
import StyleLens.Proofs.Document.Changes

/-!
# Changes from the bottom up

An editor sends the changes of one moment in a batch, each with its range in the
text as it was. The changes are applied one after another, so each range is
looked up in a text that the changes before it have made. From the last place to
the first, this does no harm: the text in front of a change is still what it was,
and it alone decides what the range of the next change means.

So the batch replaces all its stretches at once (`Text.weave`). The text after
some of the changes is a weave already (`Text.weave_eq_append`), and a change in
front of it is one more replacement in the weave (`Text.change_weave`).
-/

namespace StyleLens

/-- A stretch of a text from one byte to another, and the text to put there. -/
structure Replacement where
  start : Nat
  stop : Nat
  text : String

namespace Replacement

/-- The range of a replacement in the text that it is for. -/
def range (s : String) (r : Replacement) : Range := Text.rangeOfBytes s r.start r.stop

/-- The change that makes a replacement in a text. -/
def toChange (s : String) (r : Replacement) : Change := ⟨some (r.range s), r.text⟩

/-- Replacements in `s` from the last to the first: their ends are places that
    positions can name, none ends before it starts, and each ends where the one
    listed before it starts or further up. -/
structure BottomUp (s : String) (rs : List Replacement) : Prop where
  exact_start : ∀ r ∈ rs, Text.Exact s r.start
  exact_stop : ∀ r ∈ rs, Text.Exact s r.stop
  start_le_stop : ∀ r ∈ rs, (r.range s).start ≤ (r.range s).stop
  upwards : rs.IsChain fun r next => (next.range s).stop ≤ (r.range s).start

end Replacement

namespace Text

/-- The text from byte `b` on with some stretches replaced, from the first to the
    last: what stands in front of each stretch, and the text that is put there. -/
def weave (cs : List Char) (b : Nat) : List Replacement → List Char
  | [] => dropBytes b cs
  | r :: rs => sliceBytes cs b r.start ++ r.text.toList ++ weave cs r.stop rs

variable {cs : List Char} {i : Nat}

/-- In front of its first stretch, a weave is the text as it was. -/
theorem weave_eq_append (hi : IsBoundary cs i) {rs : List Replacement}
    (hbelow : ∀ r ∈ rs.head?, i ≤ r.start) :
    weave cs 0 rs = takeBytes i cs ++ weave cs i rs := by
  cases rs with
  | nil => rw [weave, weave, dropBytes_zero, takeBytes_append_dropBytes]
  | cons r rs =>
    rw [weave, weave, ← List.append_assoc, ← List.append_assoc,
      takeBytes_append_sliceBytes hi (hbelow r rfl), sliceBytes, Nat.sub_zero, dropBytes_zero]

variable {s t : String} {r : Replacement} {rs : List Replacement}

/-- A change in front of a weave is one more replacement in it. -/
theorem change_weave (hs : byteLength s.toList < UInt32.size) (hstart : Exact s r.start)
    (hstop : Exact s r.stop) (hle : r.start ≤ r.stop) (hbelow : ∀ q ∈ rs.head?, r.stop ≤ q.start)
    (ht : t.toList = weave s.toList 0 rs) :
    replace? t (r.range s) r.text = some (String.ofList (weave s.toList 0 (r :: rs))) := by
  -- Up to both ends of the stretch, the text is still what it was.
  have hfront : t.toList = takeBytes r.start s.toList ++ weave s.toList r.start rs :=
    ht.trans (weave_eq_append hstart.1 fun q hq => hle.trans (hbelow q hq))
  have hback : t.toList = takeBytes r.stop s.toList ++ weave s.toList r.stop rs :=
    ht.trans (weave_eq_append hstop.1 hbelow)
  have htake : takeBytes r.start t.toList = takeBytes r.start s.toList := by
    have h := takeBytes_append (takeBytes r.start s.toList) (weave s.toList r.start rs)
    rwa [hstart.byteLength_takeBytes, ← hfront] at h
  have hdrop : dropBytes r.stop t.toList = weave s.toList r.stop rs := by
    have h := dropBytes_append (takeBytes r.stop s.toList) (weave s.toList r.stop rs)
    rwa [hstop.byteLength_takeBytes, ← hback] at h
  have hsplice : splice t r.start r.stop r.text =
      String.ofList (weave s.toList 0 (r :: rs)) := by
    rw [splice, htake, hdrop, weave, sliceBytes, Nat.sub_zero, dropBytes_zero]
  rw [Replacement.range, hstart.replace?_eq hstop hs hle hback, hsplice]

end Text

namespace Document

open Text Replacement

variable {s : String}

/-- Replacements from the bottom up, in a document whose text is a weave already,
    are put in front of the ones that it has. None of them is ignored. -/
theorem editAll_bottomUp (hs : byteLength s.toList < UInt32.size) (d : Document)
    (rs done : List Replacement) (hrs : BottomUp s rs)
    (hbelow : ∀ r ∈ rs.head?, ∀ q ∈ done.head?, r.stop ≤ q.start)
    (hd : d.content.toList = weave s.toList 0 done) :
    (d.editAll (rs.map (toChange s))).1.content.toList = weave s.toList 0 (rs.reverse ++ done) ∧
      (d.editAll (rs.map (toChange s))).2 = [] := by
  induction rs generalizing d done with
  | nil => exact ⟨hd, rfl⟩
  | cons r rs ih =>
    obtain ⟨hstart, hstop, hle, hup⟩ := hrs
    obtain ⟨hstartr, hstart⟩ := List.forall_mem_cons.1 hstart
    obtain ⟨hstopr, hstop⟩ := List.forall_mem_cons.1 hstop
    obtain ⟨hler, hle⟩ := List.forall_mem_cons.1 hle
    have hreplace := change_weave hs hstartr hstopr
      (hstartr.le_of_positionOfByte_le hstopr hs hler) (hbelow r rfl) hd
    have hedit : d.edit (r.toChange s) =
        (d.withContent (String.ofList (weave s.toList 0 (r :: done))), []) := by
      simp only [edit, toChange, hreplace]
    -- The rest of the batch finds a weave with one more replacement in it.
    have hnext : ∀ q ∈ rs.head?, q.stop ≤ r.start := fun q hq =>
      (hstop q (List.mem_of_mem_head? hq)).le_of_positionOfByte_le hstartr hs (hup.rel_head? hq)
    obtain ⟨hcontent, hlog⟩ := ih (d.edit (r.toChange s)).1 (r :: done)
      ⟨hstart, hstop, hle, hup.of_cons⟩
      (fun q hq p hp => (Option.some.inj hp) ▸ hnext q hq)
      (by rw [hedit]; exact String.toList_ofList)
    rw [List.map_cons, editAll, List.reverse_cons, List.append_assoc, List.singleton_append]
    exact ⟨hcontent, by rw [hlog, hedit]; rfl⟩

/-- A batch of changes from the bottom up replaces all its stretches at once, each
    at its bytes in the text as it was, and none of them is ignored. -/
theorem bottom_up_batch_is_simultaneous (parse : Parser) (d : Document) (version : Int)
    {rs : List Replacement} (hsize : byteLength d.content.toList < UInt32.size)
    (hrs : BottomUp d.content rs) :
    (d.update parse (rs.map (toChange d.content)) version).1.content =
        String.ofList (weave d.content.toList 0 rs.reverse) ∧
      (d.update parse (rs.map (toChange d.content)) version).2 = [] := by
  obtain ⟨hcontent, hlog⟩ := editAll_bottomUp hsize
    ⟨d.uri, d.dialect, version, d.content, d.tree⟩ rs [] hrs (fun _ _ _ h => nomatch h)
    (dropBytes_zero _).symm
  rw [List.append_nil] at hcontent
  refine ⟨?_, hlog⟩
  have hupdate : (d.update parse (rs.map (toChange d.content)) version).1.content =
      (editAll ⟨d.uri, d.dialect, version, d.content, d.tree⟩
        (rs.map (toChange d.content))).1.content := by
    rw [update]
    split <;> rfl
  rw [hupdate, ← hcontent, String.ofList_toList]

/-- Three lines, the first of which ends in a carriage return and a line feed. -/
def threeLines : String := "a\r\n𝒳b\nc"

/-- Replacements in `threeLines` that meet, and an insertion in front of them. -/
def meeting : List Replacement := [⟨9, 10, "\r\nz"⟩, ⟨7, 9, "𝒳"⟩, ⟨3, 7, ""⟩, ⟨0, 0, "x\ny"⟩]

theorem bottom_up_batch_is_simultaneous_meeting :
    byteLength threeLines.toList < UInt32.size ∧ BottomUp threeLines meeting ∧
      ((create "file:///a.css" .css threeLines 1).update (fun _ => none)
        (meeting.map (toChange threeLines)) 2).1.content = "x\nya\r\n𝒳\r\nz" := by
  have hsize : byteLength threeLines.toList < UInt32.size := by decide
  have hmeeting : BottomUp threeLines meeting := ⟨by decide, by decide, by decide, by decide⟩
  refine ⟨hsize, hmeeting, ?_⟩
  exact (bottom_up_batch_is_simultaneous (fun _ => none) (create "file:///a.css" .css threeLines 1)
    2 hsize hmeeting).1.trans (by decide)

end Document

end StyleLens
