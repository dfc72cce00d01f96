import Stencil.Proofs.Occurrence
import Stencil.Proofs.Trimming
import Stencil.Template.Token

/-!
# Tokens tile their template

The tokens of a template stand next to one another from its first character to its end, and the
place and the extent of each one is told by the marks around it: which opening marker it begins
with and where the first closing marker behind that stands. `Piece.FitsAt` says this shape by shape,
in terms of offsets of the whole template and without reference to the scanner.

## Key results

- `eq_append_of_readPiece?`, `fitsAt_of_readPiece?`: what one step of the scanner reads.
- `tokenize_tiles`: the whole contract of `tokenize`.
- `pairwise_stop_tokenize`, `pairwise_offset_tokenize`: the tokens stand one behind the other, and
  their offsets increase.
-/

namespace Stencil.Place

/-- A run of characters takes a place on by their count. -/
@[simp] theorem offset_advance (p : Place) (s : List Char) :
    (p.advance s).offset = p.offset + s.length := by
  induction s generalizing p with
  | nil => simp
  | cons c s ih =>
    have hnext : (p.next c).offset = p.offset + 1 := by
      unfold next
      split <;> rfl
    rw [advance_cons, ih, hnext, List.length_cons]
    omega

end Stencil.Place

namespace Stencil.Template

open Stencil.Text

/-- An opening marker stands at the offset `i` of `s`. -/
def OpensAt (s : List Char) (i : Nat) : Prop :=
  OccursAt ['{', '{'] s i ∨ OccursAt ['{', '%'] s i

namespace Piece

/-- The piece begins with an opening marker at the offset `i` of `s`, and ends with the first
closing marker behind that. -/
structure Encloses (opening closing s : List Char) (i : Nat) (p : Piece) : Prop where
  starts : opening <+: p.raw.toList
  ends : ∃ j, FirstAt closing s (i + opening.length) j ∧ i + p.raw.length = j + closing.length

/-- What a piece at the offset `i` of `s` has to be, by its shape. -/
def FitsAt (s : List Char) (i : Nat) (p : Piece) : Prop :=
  match p.shape with
  | .run =>
    (OpensAt s (i + p.raw.length) ∨ i + p.raw.length = s.length) ∧
      ∀ j, i ≤ j → j < i + p.raw.length → ¬ OpensAt s j
  | .loneOpening => p.raw.toList = ['{', '%'] ∧ ∀ j, i + 2 ≤ j → ¬ OccursAt ['%', '}'] s j
  | .openEnd =>
    ['{', '{'] <+: p.raw.toList ∧ i + p.raw.length = s.length ∧
      ∀ j, i + 2 ≤ j → ¬ OccursAt ['}', '}'] s j
  | .blankPlaceholder =>
    ∃ blanks, IsBlanks blanks ∧
      p.raw.toList = '{' :: '{' :: (blanks ++ ['}', '}'])
  | .placeholder =>
    p.Encloses ['{', '{'] ['}', '}'] s i ∧
      (∃ inner, p.raw.toList = '{' :: '{' :: (inner ++ ['}', '}']) ∧
        p.value.toList = trim inner) ∧
      p.value ≠ "" ∧ ¬ ['%'] <+: p.value.toList
  | .directive =>
    p.Encloses ['{', '{'] ['}', '}'] s i ∨ p.Encloses ['{', '%'] ['%', '}'] s i

@[simp] theorem shape_text (shape : Shape) (raw : List Char) : (text shape raw).shape = shape := rfl

@[simp] theorem raw_text (shape : Shape) (raw : List Char) :
    (text shape raw).raw = String.ofList raw := rfl

/-- A piece in braces keeps its source text. -/
theorem raw_braced (inner : List Char) :
    (braced inner).raw = String.ofList ('{' :: '{' :: (inner ++ ['}', '}'])) := by
  unfold braced
  dsimp only
  split <;> rfl

end Piece

/-! ## One step of the scanner -/

/-- What is split at an opening marker is kept. -/
theorem splitOpening_append (s : List Char) : (splitOpening s).1 ++ (splitOpening s).2 = s := by
  induction s with
  | nil => rfl
  | cons c s ih =>
    unfold splitOpening
    split
    · rfl
    · simpa using ih

theorem opens_iff (s : List Char) : opens s = true ↔ ['{', '{'] <+: s ∨ ['{', '%'] <+: s := by
  unfold opens
  split
  · simp [List.cons_prefix_cons]
  · simp [List.cons_prefix_cons]
  · next h₁ h₂ =>
    rw [iff_false_left (by simp)]
    rintro (⟨r, rfl⟩ | ⟨r, rfl⟩)
    · exact absurd rfl (h₁ r)
    · exact absurd rfl (h₂ r)

/-- At the end of a prefix, an opening marker stands if the rest begins with one. -/
theorem opensAt_length (pre s : List Char) : OpensAt (pre ++ s) pre.length ↔ opens s = true := by
  rw [OpensAt, occursAt_length, occursAt_length, opens_iff]

/-- A text is split where an opening marker stands, or at its end. -/
theorem opens_splitOpening (s : List Char) :
    opens (splitOpening s).2 = true ∨ (splitOpening s).2 = [] := by
  induction s with
  | nil => exact .inr rfl
  | cons c s ih =>
    unfold splitOpening
    split
    · next h => exact .inl h
    · exact ih

/-- No opening marker stands before the place where a text is split. -/
theorem not_opensAt_splitOpening (pre s : List Char) (j : Nat) (h₁ : pre.length ≤ j)
    (h₂ : j < pre.length + (splitOpening s).1.length) : ¬ OpensAt (pre ++ s) j := by
  -- on the text, with the characters that were passed in the prefix
  induction s generalizing pre with
  | nil => exact absurd h₂ (by simp [splitOpening]; omega)
  | cons c s ih =>
    unfold splitOpening at h₂
    split at h₂
    · exact absurd h₂ (by simp; omega)
    · next hc =>
      by_cases hj : j = pre.length
      · rwa [hj, opensAt_length]
      · have := ih (pre ++ [c]) (by simp; omega) (by simp at h₂ ⊢; omega)
        rwa [List.append_assoc, List.singleton_append] at this

/-- Only the empty template begins with no piece. -/
theorem readPiece?_eq_none_iff (s : List Char) : readPiece? s = none ↔ s = [] := by
  unfold readPiece?
  split <;> simp

/-- A piece and what follows it are the template. -/
theorem eq_append_of_readPiece? (s rest : List Char) (p : Piece)
    (h : readPiece? s = some (p, rest)) : s = p.raw.toList ++ rest := by
  unfold readPiece? at h
  split at h
  · cases h
  · next s =>
    unfold readBraced at h
    split at h
    · next inner r hc =>
      cases h
      rw [Piece.raw_braced, eq_append_of_cut? hc]
      simp
    · cases h
      simp
  · next s =>
    unfold readDirective at h
    split at h
    · next inner r hc =>
      cases h
      rw [eq_append_of_cut? hc]
      simp [Piece.directive]
    · cases h
      simp
  · next c s _ _ =>
    cases h
    simp [splitOpening_append]

/-- No piece is empty. -/
theorem raw_ne_empty_of_readPiece? (s rest : List Char) (p : Piece)
    (h : readPiece? s = some (p, rest)) : p.raw ≠ "" := by
  intro hraw
  -- what follows would be as long as the template
  have heq := eq_append_of_readPiece? s rest p h
  have hlt := length_of_readPiece? h
  rw [heq, hraw] at hlt
  simp at hlt

/-- What stands in braces fits its place if the closing marker is the first one. -/
private theorem fitsAt_braced (pre inner rest : List Char)
    (hf : FirstAt ['}', '}'] (pre ++ '{' :: '{' :: (inner ++ ['}', '}'] ++ rest))
      (pre.length + 2) (pre.length + 2 + inner.length)) :
    (Piece.braced inner).FitsAt (pre ++ '{' :: '{' :: (inner ++ ['}', '}'] ++ rest))
      pre.length := by
  have henc : (Piece.braced inner).Encloses ['{', '{'] ['}', '}']
      (pre ++ '{' :: '{' :: (inner ++ ['}', '}'] ++ rest)) pre.length := by
    refine ⟨?_, _, hf, ?_⟩
    · rw [Piece.raw_braced]
      simp [List.cons_prefix_cons]
    · rw [Piece.raw_braced, String.length_ofList]
      simp only [List.length_cons, List.length_append, List.length_nil]
      omega
  -- blanks, the content of a directive, or a name
  unfold Piece.braced at henc ⊢
  dsimp only at henc ⊢
  split at henc
  · next hb => exact ⟨inner, (trim_eq_nil_iff inner).1 hb, by simp⟩
  · exact .inl henc
  · next hne hcontrol =>
    -- the content is neither blank nor that of a directive
    refine ⟨henc, ⟨inner, by simp, by simp⟩, ?_, ?_⟩
    · simpa using hne
    · rintro ⟨r, hr⟩
      exact hcontrol r (by simpa using hr.symm)

/-- What is read of a text that begins with `{{` fits its place. -/
private theorem fitsAt_readBraced (pre s : List Char) :
    (readBraced s).1.FitsAt (pre ++ '{' :: '{' :: s) pre.length := by
  -- offsets behind the marker are those behind `pre ++ "{{"`
  have hpre : pre ++ '{' :: '{' :: s = (pre ++ ['{', '{']) ++ s := by simp
  unfold readBraced
  split
  · next inner r hc =>
    have hf := firstAt_of_cut? _ (pre ++ ['{', '{']) _ _ _ hc
    rw [← hpre] at hf
    rw [eq_append_of_cut? hc] at hf ⊢
    exact fitsAt_braced pre inner r (by simpa using hf)
  · next hc =>
    refine ⟨by simp [List.cons_prefix_cons], ?_, fun j hj => ?_⟩
    · rw [Piece.raw_text, String.length_ofList, List.length_append]
    · rw [hpre]
      exact not_occursAt_of_cut?_eq_none _ _ _ hc j (by simpa using hj)

/-- What is read of a text that begins with `{%` fits its place. -/
private theorem fitsAt_readDirective (pre s : List Char) :
    (readDirective s).1.FitsAt (pre ++ '{' :: '%' :: s) pre.length := by
  have hpre : pre ++ '{' :: '%' :: s = (pre ++ ['{', '%']) ++ s := by simp
  unfold readDirective
  split
  · next inner r hc =>
    have hf := firstAt_of_cut? _ (pre ++ ['{', '%']) _ _ _ hc
    rw [← hpre] at hf
    refine .inr ⟨by simp [Piece.directive, List.cons_prefix_cons], _, by simpa using hf, ?_⟩
    rw [Piece.directive, String.length_ofList]
    simp only [List.length_cons, List.length_append, List.length_nil]
    omega
  · next hc =>
    refine ⟨by simp, fun j hj => ?_⟩
    rw [hpre]
    exact not_occursAt_of_cut?_eq_none _ _ _ hc j (by simpa using hj)

/-- A run of text fits its place if the text before which it stands begins with no marker. -/
private theorem fitsAt_run (pre : List Char) (c : Char) (s : List Char)
    (hc : ¬ opens (c :: s) = true) :
    (Piece.text .run (c :: (splitOpening s).1)).FitsAt (pre ++ c :: s) pre.length := by
  have hlen : pre.length + (String.ofList (c :: (splitOpening s).1)).length =
      (pre ++ [c] ++ (splitOpening s).1).length := by
    rw [String.length_ofList]
    simp only [List.length_cons, List.length_append, List.length_nil]
    omega
  have hsplit : pre ++ c :: s = (pre ++ [c] ++ (splitOpening s).1) ++ (splitOpening s).2 := by
    rw [List.append_assoc, splitOpening_append]
    simp
  refine ⟨?_, fun j hj₁ hj₂ => ?_⟩
  · -- the run ends where the text is split
    rw [Piece.raw_text, hlen, hsplit, opensAt_length]
    rcases opens_splitOpening s with ho | hn
    · exact .inl ho
    · exact .inr (by rw [hn, List.append_nil])
  · rw [Piece.raw_text, hlen, List.length_append] at hj₂
    by_cases hj : j = pre.length
    · rwa [hj, opensAt_length]
    · have := not_opensAt_splitOpening (pre ++ [c]) s j (by simp; omega) hj₂
      rwa [List.append_assoc, List.singleton_append] at this

/-- The piece a text begins with fits its place in the template. -/
theorem fitsAt_of_readPiece? (pre s rest : List Char) (p : Piece)
    (h : readPiece? s = some (p, rest)) : p.FitsAt (pre ++ s) pre.length := by
  unfold readPiece? at h
  split at h
  · cases h
  · next s =>
    have hp : (readBraced s).1 = p := congrArg Prod.fst (Option.some.inj h)
    exact hp ▸ fitsAt_readBraced pre s
  · next s =>
    have hp : (readDirective s).1 = p := congrArg Prod.fst (Option.some.inj h)
    exact hp ▸ fitsAt_readDirective pre s
  · next c s h₁ h₂ =>
    cases h
    -- the markers were the cases before
    refine fitsAt_run pre c s fun ho => ?_
    rcases (opens_iff _).1 ho with ⟨r, hr⟩ | ⟨r, hr⟩
    · obtain ⟨rfl, rfl⟩ := List.cons.inj hr
      exact h₁ r rfl rfl
    · obtain ⟨rfl, rfl⟩ := List.cons.inj hr
      exact h₂ r rfl rfl

/-! ## All tokens -/

/-- Tokens that stand next to one another from the offset `i` to the offset `j`, none of them
empty. -/
def Tiles (i j : Nat) : List Token → Prop
  | [] => i = j
  | t :: ts => t.offset = i ∧ t.raw ≠ "" ∧ Tiles (t.offset + t.raw.length) j ts

/-- The source texts of the pieces, put together, are the template. -/
theorem flatten_raw_pieces (s : List Char) : ((pieces s).map (·.raw.toList)).flatten = s := by
  fun_induction pieces s with
  | case1 s h => exact ((readPiece?_eq_none_iff s).1 h).symm
  | case2 s p rest h _ ih =>
    rw [List.map_cons, List.flatten_cons, ih]
    exact (eq_append_of_readPiece? s rest p h).symm

/-- The place after some pieces is that after their source texts. -/
theorem finish_eq (p : Place) (ps : List Piece) :
    finish p ps = p.advance (ps.map (·.raw.toList)).flatten := by
  induction ps generalizing p with
  | nil => rfl
  | cons piece ps ih =>
    rw [List.map_cons, List.flatten_cons, Place.advance_append, ← ih]
    rfl

/-- Giving pieces their places does not change them. -/
theorem map_toPiece_locate (p : Place) (ps : List Piece) :
    (locate p ps).map Token.toPiece = ps := by
  induction ps generalizing p with
  | nil => rfl
  | cons piece ps ih => rw [locate, List.map_cons, ih]

/-- The tokens of a template are its pieces. -/
theorem map_toPiece_tokenize (text : String) :
    (tokenize text).tokens.map Token.toPiece = pieces text.toList :=
  map_toPiece_locate _ _

/-- The tokens of the rest of a template tile that rest, and fit their places. -/
private theorem tiles_locate_pieces (pre s : List Char) (p : Place) (hp : p.offset = pre.length) :
    Tiles pre.length (pre ++ s).length (locate p (pieces s)) ∧
      (finish p (pieces s)).offset = (pre ++ s).length ∧
      ∀ t ∈ locate p (pieces s), t.FitsAt (pre ++ s) t.offset := by
  -- on the scan; what was read is the prefix, and the place counts its characters
  fun_induction pieces s generalizing pre p with
  | case1 s h =>
    rw [(readPiece?_eq_none_iff s).1 h, List.append_nil]
    exact ⟨rfl, hp, fun t ht => absurd ht List.not_mem_nil⟩
  | case2 s piece rest h _ ih =>
    have hs := eq_append_of_readPiece? s rest piece h
    have hpre : pre ++ s = (pre ++ piece.raw.toList) ++ rest := by
      rw [List.append_assoc, ← hs]
    have hplace : (p.advance piece.raw.toList).offset = (pre ++ piece.raw.toList).length := by
      rw [Place.offset_advance, hp, List.length_append]
    obtain ⟨htiles, hfinish, hfits⟩ := ih (pre ++ piece.raw.toList) _ hplace
    rw [← hpre] at htiles hfinish hfits
    refine ⟨⟨hp, raw_ne_empty_of_readPiece? s rest piece h, ?_⟩, hfinish, ?_⟩
    · -- the next token starts where this one ends
      show Tiles (p.offset + piece.raw.length) _ _
      rwa [hp, ← String.length_toList, ← List.length_append]
    · intro t ht
      rcases List.mem_cons.1 ht with rfl | ht
      · show piece.FitsAt (pre ++ s) p.offset
        rw [hp]
        exact fitsAt_of_readPiece? pre s rest piece h
      · exact hfits t ht

/-- In a tiling, a token starts no earlier than the tiling. -/
theorem le_offset_of_tiles (i j : Nat) (ts : List Token) (h : Tiles i j ts) :
    ∀ t ∈ ts, i ≤ t.offset := by
  induction ts generalizing i with
  | nil => exact fun t ht => absurd ht List.not_mem_nil
  | cons t ts ih =>
    obtain ⟨rfl, -, hts⟩ := h
    intro u hu
    rcases List.mem_cons.1 hu with rfl | hu
    · exact Nat.le_refl _
    · have := ih _ hts u hu
      omega

/-- In a tiling, each token has an extent and ends before the ones behind it start. -/
theorem pairwise_stop_of_tiles (i j : Nat) (ts : List Token) (h : Tiles i j ts) :
    ts.Pairwise fun t u => t.offset < t.stop ∧ t.stop ≤ u.offset := by
  induction ts generalizing i with
  | nil => exact List.Pairwise.nil
  | cons t ts ih =>
    obtain ⟨rfl, hraw, hts⟩ := h
    refine List.Pairwise.cons ?_ (ih _ hts)
    intro u hu
    have hle := le_offset_of_tiles _ _ ts hts u hu
    have hpos : t.raw.length ≠ 0 := fun h0 => hraw (String.length_eq_zero_iff.1 h0)
    show t.offset < t.offset + t.raw.length ∧ t.offset + t.raw.length ≤ u.offset
    omega

/-- The tokens of a template stand one behind the other. -/
theorem pairwise_stop_tokenize (text : String) :
    (tokenize text).tokens.Pairwise fun t u => t.offset < t.stop ∧ t.stop ≤ u.offset :=
  pairwise_stop_of_tiles _ _ _ (tiles_locate_pieces [] text.toList .start rfl).1

/-- The offsets of the tokens of a template increase. -/
theorem pairwise_offset_tokenize (text : String) :
    ((tokenize text).tokens.map (·.offset)).Pairwise (· < ·) :=
  List.pairwise_map.2 ((pairwise_stop_tokenize text).imp fun h => Nat.lt_of_lt_of_le h.1 h.2)

/-- No two tokens of a template have the same offset. -/
theorem nodup_offset_tokenize (text : String) :
    ((tokenize text).tokens.map (·.offset)).Nodup :=
  (pairwise_offset_tokenize text).imp fun h => Nat.ne_of_lt h

/-- The tokens of a template tile it: they follow one another without a gap from its first character
to its end, none of them empty, and their source texts put together are the template. Each has the
extent that the marks around it prescribe. -/
theorem tokenize_tiles (text : String) :
    Tiles 0 text.length (tokenize text).tokens ∧
      ((tokenize text).tokens.map (·.raw.toList)).flatten = text.toList ∧
      (tokenize text).stop.offset = text.length ∧
      ∀ t ∈ (tokenize text).tokens,
        t.stop = t.offset + t.raw.length ∧ t.FitsAt text.toList t.offset := by
  obtain ⟨htiles, hfinish, hfits⟩ := tiles_locate_pieces [] text.toList .start rfl
  rw [List.nil_append, String.length_toList] at htiles hfinish
  refine ⟨htiles, ?_, hfinish, fun t ht => ⟨rfl, hfits t ht⟩⟩
  rw [tokenize, show (fun t : Token => t.raw.toList) = (·.raw.toList) ∘ Token.toPiece from rfl,
    ← List.map_map, map_toPiece_locate, flatten_raw_pieces]

end Stencil.Template
