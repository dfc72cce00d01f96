import Stencil.Proofs.TokenTiling

/-!
# Templates one after another

When one template is put before another, the pieces are those of the two, as long as nothing in the
first one reaches over the seam: all its markers are closed, and it does not end with a brace, which
could be the half of an opening marker. The second one has to begin with a marker, because a run of
text at its start would become one with a run at the end of the first one.

## Key results

- `readsPiece_of_readPiece?`: the five ways in which a piece is read.
- `readPiece?_seam`: a piece is read as before when something is put behind the template.
- `pieces_append`: the pieces of two templates put together.
- `pieces_directive`: the pieces of a template that begins with a directive.
-/

namespace Stencil.Template

open Stencil.Text

/-- All opening markers among the pieces are closed. -/
def AllClosed (ps : List Piece) : Prop :=
  ∀ p ∈ ps, p.shape ≠ .loneOpening ∧ p.shape ≠ .openEnd

/-- The text does not end with an opening brace. -/
def EndsApart (s : List Char) : Prop := s.getLast? ≠ some '{'

/-- The pieces of a template are closed if its tokens are. -/
theorem allClosed_of_tokens (text : String)
    (h : ∀ t ∈ (tokenize text).tokens, t.shape ≠ .loneOpening ∧ t.shape ≠ .openEnd) :
    AllClosed (pieces text.toList) := by
  intro p hp
  -- the pieces are the tokens without their places
  rw [← map_toPiece_tokenize] at hp
  obtain ⟨t, ht, rfl⟩ := List.mem_map.1 hp
  exact h t ht

theorem pieces_of_readPiece? (s rest : List Char) (p : Piece)
    (h : readPiece? s = some (p, rest)) : pieces s = p :: pieces rest := by
  rw [pieces]
  split
  · next hn => cases h.symm.trans hn
  · next p' rest' hs =>
    cases h.symm.trans hs
    rfl

theorem pieces_nil : pieces [] = [] := by
  rw [pieces]
  rfl

/-! ## The ways to read a piece -/

/-- A text that begins with no marker begins with a run. -/
theorem readPiece?_run (c : Char) (s : List Char) (h : ¬ opens (c :: s) = true) :
    readPiece? (c :: s) =
      some (.text .run (c :: (splitOpening s).1), (splitOpening s).2) := by
  rw [readPiece?]
  · rintro r rfl rfl
    exact h rfl
  · rintro r rfl rfl
    exact h rfl

/-- How the piece that a text begins with is read, and what is left: one of the two markers, closed
or not, or a run of text. -/
inductive ReadsPiece : List Char → Piece → List Char → Prop
  | braced (r inner rest : List Char) : cut? ['}', '}'] r = some (inner, rest) →
      ReadsPiece ('{' :: '{' :: r) (.braced inner) rest
  | openEnd (r : List Char) : cut? ['}', '}'] r = none →
      ReadsPiece ('{' :: '{' :: r) (.text .openEnd ('{' :: '{' :: r)) []
  | directive (r inner rest : List Char) : cut? ['%', '}'] r = some (inner, rest) →
      ReadsPiece ('{' :: '%' :: r) (.directive inner) rest
  | loneOpening (r : List Char) : cut? ['%', '}'] r = none →
      ReadsPiece ('{' :: '%' :: r) (.text .loneOpening ['{', '%']) r
  | run (c : Char) (s : List Char) : ¬ opens (c :: s) = true →
      ReadsPiece (c :: s) (.text .run (c :: (splitOpening s).1)) (splitOpening s).2

/-- A piece is read in one of these ways. -/
theorem readsPiece_of_readPiece? (s rest : List Char) (p : Piece)
    (h : readPiece? s = some (p, rest)) : ReadsPiece s p rest := by
  cases s with
  | nil => cases h
  | cons c s =>
    by_cases ho : opens (c :: s) = true
    · rcases (opens_iff _).1 ho with ⟨r, hr⟩ | ⟨r, hr⟩
      · rw [← hr] at h ⊢
        have h : readBraced r = (p, rest) := Option.some.inj h
        unfold readBraced at h
        split at h
        · next inner _ hc =>
          cases h
          exact .braced r inner rest hc
        · next hc =>
          cases h
          exact .openEnd r hc
      · rw [← hr] at h ⊢
        have h : readDirective r = (p, rest) := Option.some.inj h
        unfold readDirective at h
        split at h
        · next inner _ hc =>
          cases h
          exact .directive r inner rest hc
        · next hc =>
          cases h
          exact .loneOpening _ hc
    · rw [readPiece?_run c s ho] at h
      cases h
      exact .run c s ho

/-! ## The seam -/

/-- What remains of a text does not end with a brace either. -/
theorem endsApart_of_append (s rest : List Char) (h : EndsApart (s ++ rest)) :
    EndsApart rest := by
  intro hr
  exact h (by rw [List.getLast?_append, hr]; rfl)

/-- No marker comes into being at the seam. -/
theorem opens_seam (c : Char) (s u : List Char) (h : EndsApart (c :: s)) :
    opens (c :: (s ++ u)) = opens (c :: s) := by
  rw [Bool.eq_iff_iff, opens_iff, opens_iff]
  cases s with
  | nil =>
    -- the character before the seam is no brace
    have hc : '{' ≠ c := fun hc => h (by rw [hc]; rfl)
    simp [List.cons_prefix_cons, hc]
  | cons d s => simp [List.cons_prefix_cons]

/-- A text is split as before when something is put behind it, if it is split before its end or a
marker is put there. -/
theorem splitOpening_seam (s u : List Char) (hs : EndsApart s)
    (h : (splitOpening s).2 ≠ [] ∨ opens u = true) :
    splitOpening (s ++ u) = ((splitOpening s).1, (splitOpening s).2 ++ u) := by
  induction s with
  | nil =>
    have hu : opens u = true := h.resolve_left fun hne => hne rfl
    cases u with
    | nil => rfl
    | cons c u =>
      show splitOpening (c :: u) = ([], c :: u)
      rw [splitOpening, if_pos hu]
  | cons c s ih =>
    -- whether a marker stands here is told by the first text alone
    rw [splitOpening] at h ⊢
    rw [List.cons_append, splitOpening, opens_seam c s u hs]
    by_cases ho : opens (c :: s) = true
    · rw [if_pos ho, if_pos ho]
      rfl
    · rw [if_neg ho] at h ⊢
      rw [if_neg ho, ih (endsApart_of_append [c] s hs) h]

/-- A piece is read as before when something is put behind the template, unless it is a run of text
that the template ends with and no marker follows. -/
theorem readPiece?_seam (s u rest : List Char) (p : Piece) (h : readPiece? s = some (p, rest))
    (hp : p.shape ≠ .loneOpening ∧ p.shape ≠ .openEnd) (hs : EndsApart s)
    (hinside : opens s = true ∨ rest ≠ [] ∨ opens u = true) :
    readPiece? (s ++ u) = some (p, rest ++ u) := by
  cases readsPiece_of_readPiece? s rest p h with
  | braced r inner rest hc =>
    -- the marker ends before the seam
    show some (readBraced (r ++ u)) = _
    rw [readBraced, cut?_append_of_eq_some _ _ u _ _ hc]
  | directive r inner rest hc =>
    show some (readDirective (r ++ u)) = _
    rw [readDirective, cut?_append_of_eq_some _ _ u _ _ hc]
  -- a marker that is not closed would take the second text in
  | openEnd r hc => exact absurd rfl hp.2
  | loneOpening r hc => exact absurd rfl hp.1
  | run c s ho =>
    rw [List.cons_append, readPiece?_run c (s ++ u) (by rw [opens_seam c s u hs]; exact ho),
      splitOpening_seam s u (endsApart_of_append [c] s hs) (hinside.resolve_left ho)]

/-- The pieces of two templates put together. -/
theorem pieces_append (s u : List Char) (hclosed : AllClosed (pieces s)) (hs : EndsApart s)
    (hu : opens u = true) : pieces (s ++ u) = pieces s ++ pieces u := by
  -- on the scan of the first text; what remains of it has the same properties
  fun_induction pieces s with
  | case1 s h => rw [(readPiece?_eq_none_iff s).1 h, List.nil_append, List.nil_append]
  | case2 s p rest h _ ih =>
    have hseam := readPiece?_seam s u rest p h (hclosed p List.mem_cons_self) hs (.inr (.inr hu))
    have hrest : EndsApart rest :=
      endsApart_of_append p.raw.toList rest (eq_append_of_readPiece? s rest p h ▸ hs)
    rw [pieces_of_readPiece? _ _ _ hseam, List.cons_append,
      ih (fun q hq => hclosed q (List.mem_cons_of_mem p hq)) hrest]

/-! ## A directive at the start -/

/-- The pieces of a template that begins with a directive. -/
theorem pieces_directive (inner rest : List Char) (h : ¬ ['%', '}'] <:+: inner) :
    pieces ('{' :: '%' :: (inner ++ '%' :: '}' :: rest)) = .directive inner :: pieces rest := by
  refine pieces_of_readPiece? _ _ _ ?_
  show some (readDirective (inner ++ '%' :: '}' :: rest)) = _
  rw [readDirective, cut?_append_pair '%' '}' (by decide) inner rest h]

/-! ## Places -/

/-- Pieces behind others start where those end. -/
theorem locate_append (p : Place) (ps qs : List Piece) :
    locate p (ps ++ qs) = locate p ps ++ locate (finish p ps) qs := by
  induction ps generalizing p with
  | nil => rfl
  | cons piece ps ih =>
    rw [List.cons_append, locate, locate, ih, List.cons_append]
    rfl

end Stencil.Template
