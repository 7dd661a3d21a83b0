import Mathlib.Data.List.Basic
import StyleLens.Selector.Basic

/-!
# Chains as they are read

A chain is read from left to right as a list of pieces, simples and combinators
(`Chain.pieces`). Reading loses nothing (`Chain.pieces_injective`), and what is
done at the end of a chain is done at the end of its pieces
(`Chain.pieces_extendLast`, `Chain.pieces_join`).
-/

namespace StyleLens

/-- What a chain is made of: a simple of type `σ`, or a combinator. -/
inductive Piece (σ : Type) where
  | simple (s : σ)
  | combinator (c : Combinator)

namespace Chain

variable {σ : Type}

/-- The pieces of a link: its combinator, then the simples of its compound. -/
def linkPieces (link : Combinator × List σ) : List (Piece σ) :=
  .combinator link.1 :: link.2.map .simple

/-- The pieces of a chain from left to right. -/
def pieces (s : Chain σ) : List (Piece σ) := s.first.map .simple ++ s.rest.flatMap linkPieces

/-- The simples of a chain from left to right. -/
def simples (s : Chain σ) : List σ := s.first ++ s.rest.flatMap Prod.snd

/-! ### Additions at the end -/

theorem extendLinks_concat (extra : List σ) (links : List (Combinator × List σ)) (c : Combinator)
    (compound : List σ) :
    extendLinks extra (links ++ [(c, compound)]) = links ++ [(c, compound ++ extra)] := by
  induction links with
  | nil => rfl
  | cons link links ih =>
    cases links with
    | nil => rfl
    | cons next links => exact congrArg (link :: ·) ih

/-- Simples are added to the first compound of a chain that has no other. -/
theorem extendLast_nil (first extra : List σ) :
    extendLast ⟨first, []⟩ extra = ⟨first ++ extra, []⟩ := rfl

/-- Simples are added to the compound of the last link. -/
theorem extendLast_concat (first extra : List σ) (links : List (Combinator × List σ))
    (c : Combinator) (compound : List σ) :
    extendLast ⟨first, links ++ [(c, compound)]⟩ extra =
      ⟨first, links ++ [(c, compound ++ extra)]⟩ := by
  rw [← extendLinks_concat]
  cases links <;> rfl

/-- Simples that are added to the last compound are the last pieces. -/
theorem pieces_extendLast (s : Chain σ) (extra : List σ) :
    (s.extendLast extra).pieces = s.pieces ++ extra.map .simple := by
  obtain ⟨first, rest⟩ := s
  rcases List.eq_nil_or_concat rest with rfl | ⟨links, ⟨c, compound⟩, rfl⟩
  · simp [extendLast_nil, pieces]
  · rw [List.concat_eq_append, extendLast_concat]
    simp [pieces, linkPieces]

/-- Simples that are added to the last compound are the last simples. -/
theorem simples_extendLast (s : Chain σ) (extra : List σ) :
    (s.extendLast extra).simples = s.simples ++ extra := by
  obtain ⟨first, rest⟩ := s
  rcases List.eq_nil_or_concat rest with rfl | ⟨links, ⟨c, compound⟩, rfl⟩
  · simp [extendLast_nil, simples]
  · rw [List.concat_eq_append, extendLast_concat]
    simp [simples]

/-- The pieces of two chains that are joined stand around the combinator. -/
theorem pieces_join (s t : Chain σ) (c : Combinator) :
    (s.join c t).pieces = s.pieces ++ .combinator c :: t.pieces := by
  simp [pieces, join, linkPieces]

/-! ### Back from pieces -/

/-- The chain that some pieces are read from, in front of which stands a compound
    of which some simples were read already. -/
def ofPieces (compound : List σ) : List (Piece σ) → Chain σ
  | [] => ⟨compound, []⟩
  | .simple s :: ps => ofPieces (compound ++ [s]) ps
  | .combinator c :: ps =>
    let next := ofPieces [] ps
    ⟨compound, (c, next.first) :: next.rest⟩

theorem ofPieces_simples (compound simples : List σ) (ps : List (Piece σ)) :
    ofPieces compound (simples.map .simple ++ ps) = ofPieces (compound ++ simples) ps := by
  induction simples generalizing compound with
  | nil => rw [List.map_nil, List.nil_append, List.append_nil]
  | cons s simples ih =>
    rw [List.map_cons, List.cons_append, ofPieces, ih, List.append_assoc, List.singleton_append]

theorem ofPieces_links (compound : List σ) (links : List (Combinator × List σ)) :
    ofPieces compound (links.flatMap linkPieces) = ⟨compound, links⟩ := by
  induction links generalizing compound with
  | nil => rfl
  | cons link links ih =>
    rw [List.flatMap_cons, linkPieces, List.cons_append, ofPieces, ofPieces_simples, ih,
      List.nil_append]

/-- A chain is read back from its pieces. -/
theorem ofPieces_pieces (s : Chain σ) : ofPieces [] s.pieces = s := by
  rw [pieces, ofPieces_simples, ofPieces_links, List.nil_append]

/-- Reading loses nothing: chains with the same pieces are equal. -/
theorem pieces_injective : Function.Injective (pieces : Chain σ → List (Piece σ)) := fun s t h => by
  rw [← ofPieces_pieces s, h, ofPieces_pieces]

end Chain

end StyleLens
