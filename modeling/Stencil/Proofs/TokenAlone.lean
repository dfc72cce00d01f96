import Stencil.Proofs.TokenSeam

/-!
# The source text of a token, read on its own

A token is told by its source text alone: cut into tokens by itself, the text is that one token
again, whatever stood behind it in the template. So a token keeps its reading when it is taken out
of its template, and text is never taken for a directive.

## Key results

- `readPiece?_raw`: one step of the scanner on the source text of a piece.
- `pieces_raw`: the pieces of the source text of a piece.
- `value_eq_raw`: a piece that stands for itself is its source text.
-/

namespace Stencil.Text

/-- A text that ends with the mark at which it was cut is cut there again. -/
theorem cut?_of_cut?_append (mark s a b : List Char) (h : cut? mark s = some (a, b)) :
    cut? mark (a ++ mark) = some (a, []) := by
  cases hc : cut? mark (a ++ mark) with
  | none =>
    -- but the mark stands at the end
    refine absurd ?_ (not_occursAt_of_cut?_eq_none mark [] (a ++ mark) hc a.length (Nat.zero_le _))
    exact (occursAt_length mark a mark).2 (List.prefix_refl mark)
  | some cut =>
    obtain ⟨a', b'⟩ := cut
    -- the rest of the text does not move the place
    have hlong := cut?_append_of_eq_some mark (a ++ mark) b a' b' hc
    rw [← eq_append_of_cut? h, h] at hlong
    obtain ⟨rfl, hb⟩ := Prod.mk.inj (Option.some.inj hlong)
    rw [List.self_eq_append_left.1 hb]

end Stencil.Text

namespace Stencil.Template

open Stencil.Text

/-- No opening marker comes into being when the end of a text is cut off. -/
theorem opens_mono (s u : List Char) (hsu : s <+: u) (h : opens s = true) :
    opens u = true :=
  (opens_iff u).2 (((opens_iff s).1 h).imp (·.trans hsu) (·.trans hsu))

/-- The characters before an opening marker are all taken when the text ends there. -/
theorem splitOpening_fst (s : List Char) :
    splitOpening (splitOpening s).1 = ((splitOpening s).1, []) := by
  induction s with
  | nil => rfl
  | cons c s ih =>
    by_cases ho : opens (c :: s) = true
    · rw [splitOpening, if_pos ho]
      rfl
    · have hsplit : splitOpening (c :: s) = (c :: (splitOpening s).1, (splitOpening s).2) := by
        rw [splitOpening, if_neg ho]
      have hprefix : c :: (splitOpening s).1 <+: c :: s :=
        (List.prefix_cons_inj c).2 ⟨_, splitOpening_append s⟩
      rw [hsplit]
      dsimp only
      rw [splitOpening, if_neg fun h => ho (opens_mono _ _ hprefix h), ih]

/-! ## One step of the scanner -/

/-- The source text of a piece is read as that piece. -/
theorem readPiece?_raw (s rest : List Char) (p : Piece) (h : readPiece? s = some (p, rest)) :
    readPiece? p.raw.toList = some (p, []) := by
  cases readsPiece_of_readPiece? s rest p h with
  | braced r inner rest hc =>
    rw [Piece.raw_braced, String.toList_ofList]
    show some (readBraced (inner ++ ['}', '}'])) = _
    rw [readBraced, cut?_of_cut?_append _ _ _ _ hc]
  | openEnd r hc =>
    rw [Piece.raw_text, String.toList_ofList]
    show some (readBraced r) = _
    rw [readBraced, hc]
  | directive r inner rest hc =>
    rw [Piece.directive, String.toList_ofList]
    show some (readDirective (inner ++ ['%', '}'])) = _
    rw [readDirective, cut?_of_cut?_append _ _ _ _ hc]
    rfl
  | loneOpening => rfl
  | run c s ho =>
    -- what the run is cut out of begins with no marker, and so does the run
    have hprefix : c :: (splitOpening s).1 <+: c :: s :=
      (List.prefix_cons_inj c).2 ⟨_, splitOpening_append s⟩
    rw [Piece.raw_text, String.toList_ofList,
      readPiece?_run c _ fun h => ho (opens_mono _ _ hprefix h), splitOpening_fst]

/-- A piece that stands for itself is its source text. -/
theorem value_eq_raw (s rest : List Char) (p : Piece) (h : readPiece? s = some (p, rest))
    (hp : p.shape.isText = true) : p.value = p.raw := by
  cases readsPiece_of_readPiece? s rest p h with
  | braced r inner rest hc =>
    -- in braces, only blanks stand for themselves
    unfold Piece.braced at hp ⊢
    dsimp only at hp ⊢
    split at hp
    · rfl
    · cases hp
    · cases hp
  | openEnd => rfl
  | directive => cases hp
  | loneOpening => rfl
  | run => rfl

/-! ## All pieces -/

/-- The source text of each piece of a text is read as that piece. -/
theorem readPiece?_of_mem_pieces (s : List Char) (p : Piece) (hp : p ∈ pieces s) :
    readPiece? p.raw.toList = some (p, []) := by
  fun_induction pieces s with
  | case1 s h => cases hp
  | case2 s q rest h _ ih =>
    rcases List.mem_cons.1 hp with rfl | hp
    · exact readPiece?_raw s rest p h
    · exact ih hp

/-- The source text of each piece of a text has that piece only. -/
theorem pieces_raw (s : List Char) (p : Piece) (hp : p ∈ pieces s) :
    pieces p.raw.toList = [p] := by
  rw [pieces_of_readPiece? _ _ _ (readPiece?_of_mem_pieces s p hp), pieces_nil]

end Stencil.Template
