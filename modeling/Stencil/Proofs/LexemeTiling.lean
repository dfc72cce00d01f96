import Stencil.Proofs.LexemeForms

/-!
# The text of a condition, lexeme by lexeme

A text that can be cut into tokens is made of their lexemes and of blanks, with nothing left out and
nothing read twice: before each lexeme and behind the last one stands a run of blanks that may be
empty. Each token stands where its lexeme begins, and the lexeme is the longest one there. If the
text cannot be cut, that is so up to the character that is reported, and there stands neither a
blank nor a lexeme.

`Tiled` says this of a text up to some rest of it, without reference to the scanner. Every text has
such a tiling (`exists_tiled`), and the scanner follows any of them (`scan_of_tiled`), so that the
tilings of a text tell what becomes of it.

## Key results

- `exists_tiled`: a text is tiled up to its end or to a stray character.
- `scan_of_tiled`: the scanner reads the tokens of a tiling, and goes on behind it.
- `tokenize_tiled`: what is read of a whole text, and where it is refused.
-/

namespace Stencil.Condition

open Stencil.Text

/-- From the offset on, the text is made of the lexemes of the tokens with blanks before them, then
of blanks, and then of the rest. Every token stands at the offset of its lexeme, and no lexeme that
begins there is longer. -/
inductive Tiled : Nat → List Char → List Located → List Char → Prop
  | blanks {offset : Nat} {ws : List Char} (rest : List Char) : IsBlanks ws →
      Tiled offset (ws ++ rest) [] rest
  | lexeme {offset : Nat} {ws u s rest : List Char} {t : Token} {ts : List Located} :
      IsBlanks ws → IsLexeme u t →
      (∀ v t', IsLexeme v t' → v <+: u ++ s → v.length ≤ u.length) →
      Tiled (offset + ws.length + u.length) s ts rest →
      Tiled offset (ws ++ (u ++ s)) (⟨t, offset + ws.length⟩ :: ts) rest

theorem isBlanks_nil : IsBlanks [] := List.forall_mem_nil _

/-- A blank before a tiled text. -/
theorem Tiled.blank {offset : Nat} {s rest : List Char} {ts : List Located} (c : Char)
    (hc : isBlank c = true) (h : Tiled (offset + 1) s ts rest) : Tiled offset (c :: s) ts rest := by
  have hblanks : ∀ ws, IsBlanks ws → IsBlanks (c :: ws) := fun ws hws d hd =>
    (List.mem_cons.1 hd).elim (· ▸ hc) (hws d)
  cases h with
  | blanks rest hws => exact .blanks rest (hblanks _ hws)
  | @lexeme _ ws u s _ t ts hws hu hlongest hs =>
    -- the blank is counted with those of the run
    have hlength : offset + 1 + ws.length = offset + (c :: ws).length := by
      rw [List.length_cons]
      omega
    rw [hlength] at hs ⊢
    exact .lexeme (hblanks ws hws) hu hlongest hs

/-- The longest lexeme before a tiled text. -/
theorem Tiled.of_lexeme? {offset : Nat} {s rest : List Char} {ts : List Located} (c : Char)
    (l : Lexeme) (hl : lexeme? c s = some l)
    (h : Tiled (offset + l.width) l.rest ts rest) :
    Tiled offset (c :: s) (⟨l.token, offset⟩ :: ts) rest := by
  obtain ⟨u, hs, hwidth, hu, hlongest⟩ := (lexeme?_eq_some_iff c s l).1 hl
  rw [hs] at hlongest ⊢
  rw [← hwidth] at h
  exact .lexeme isBlanks_nil hu hlongest h

/-- What follows a tiling is the rest of the text, and the part before it is tiled by itself. -/
theorem Tiled.exists_before {offset : Nat} {s rest : List Char} {ts : List Located}
    (h : Tiled offset s ts rest) : ∃ before, s = before ++ rest ∧ Tiled offset before ts [] := by
  induction h with
  | @blanks offset ws rest hws =>
    have htiled : Tiled offset (ws ++ []) [] [] := .blanks [] hws
    rw [List.append_nil] at htiled
    exact ⟨ws, rfl, htiled⟩
  | @lexeme offset ws u s rest t ts hws hu hlongest _ ih =>
    obtain ⟨before, rfl, htiled⟩ := ih
    refine ⟨ws ++ (u ++ before), by simp, .lexeme hws hu (fun v t' hv hstarts => ?_) htiled⟩
    -- a lexeme of the part is one of the text
    rw [← List.append_assoc] at hlongest
    exact hlongest v t' hv (hstarts.trans (List.prefix_append _ rest))

/-- Every text is tiled up to its end, or up to a character that is no blank and begins no
lexeme. -/
theorem exists_tiled (offset : Nat) (s : List Char) : ∃ ts rest, Tiled offset s ts rest ∧
    (rest = [] ∨ ∃ c r, rest = c :: r ∧ isBlank c = false ∧ lexeme? c r = none) := by
  induction offset, s using scan.induct with
  | case1 offset => exact ⟨[], [], @Tiled.blanks offset [] [] isBlanks_nil, .inl rfl⟩
  | case2 offset c s hc ih =>
    obtain ⟨ts, rest, htiled, hrest⟩ := ih
    exact ⟨ts, rest, htiled.blank c hc, hrest⟩
  | case3 offset c s hc hl =>
    exact ⟨[], c :: s, @Tiled.blanks offset [] (c :: s) isBlanks_nil,
      .inr ⟨c, s, rfl, Bool.eq_false_iff.2 hc, hl⟩⟩
  | case4 offset c s hc l hl _ _ _ ih | case5 offset c s hc l hl _ _ _ ih =>
    obtain ⟨ts, rest, htiled, hrest⟩ := ih
    exact ⟨⟨l.token, offset⟩ :: ts, rest, htiled.of_lexeme? c l hl, hrest⟩

/-! ## Along the scanner -/

/-- The scanner reads the tokens of a tiling and goes on behind it. -/
theorem scan_of_tiled {offset : Nat} {before rest : List Char} {ts : List Located}
    (h : Tiled offset (before ++ rest) ts rest) :
    scan offset (before ++ rest) = (scan (offset + before.length) rest).map fun us =>
      ⟨ts ++ us.tokens, us.stop⟩ := by
  generalize hs : before ++ rest = s at h
  induction h generalizing before with
  | @blanks offset ws rest hws =>
    obtain rfl := List.append_cancel_right hs
    rw [scan_blanks_append before rest hws]
    cases scan (offset + before.length) rest <;> rfl
  | @lexeme offset ws u s rest t ts hws hu hlongest htiled ih =>
    obtain ⟨after, rfl, -⟩ := htiled.exists_before
    obtain rfl : before = ws ++ (u ++ after) := List.append_cancel_right (by simpa using hs)
    -- the lexeme is the longest one where it stands, so it is the one that is read
    obtain ⟨c, r, l, hcons, hblank, hl, hlong⟩ := exists_lexeme?_of_isLexeme u t hu (after ++ rest)
    obtain ⟨v, hv, hwidth, hlexeme, -⟩ := (lexeme?_eq_some_iff c r l).1 hl
    have hle : l.width ≤ u.length := by
      rw [← hwidth]
      exact hlongest v l.token hlexeme ⟨l.rest, by rw [hcons, hv]⟩
    obtain rfl := hlong.resolve_right (Nat.not_lt.2 hle)
    have hlength : offset + (ws ++ (u ++ after)).length =
        offset + ws.length + u.length + after.length := by
      simp only [List.length_append]
      omega
    rw [scan_blanks_append ws _ hws, hcons, scan_cons _ c r _ (by simp [hblank]) hl, ih rfl,
      hlength]
    cases scan (offset + ws.length + u.length + after.length) rest <;> rfl

/-- A text that is tiled to its end is cut into the tokens of the tiling. -/
theorem scan_of_tiled_nil {offset : Nat} {s : List Char} {ts : List Located}
    (h : Tiled offset s ts []) : scan offset s = .ok ⟨ts, offset + s.length⟩ := by
  rw [← List.append_nil s] at h
  have hscan := scan_of_tiled h
  rwa [scan, List.append_nil, Except.map, List.append_nil] at hscan

/-- A text that is tiled up to a character that is no blank and begins no lexeme is refused at that
character. -/
theorem scan_of_tiled_stray {offset : Nat} {before rest : List Char} {ts : List Located} {c : Char}
    (h : Tiled offset (before ++ c :: rest) ts (c :: rest)) (hc : isBlank c = false)
    (hl : lexeme? c rest = none) :
    scan offset (before ++ c :: rest) = .error ⟨c, offset + before.length⟩ := by
  rw [scan_of_tiled h, scan_stray _ c rest (by simp [hc]) hl]
  rfl

/-- **The text of a condition, lexeme by lexeme.** Every text is either cut into tokens or refused
at a character. It is cut into tokens exactly if it is made of their lexemes and of blanks, and the
end stands at its length. If it is refused, the text before the character is cut into the tokens
that were read there, and the character is no blank and begins no lexeme. A lexeme determines its
token. -/
theorem tokenize_tiled (text : String) :
    ((∃ ts, tokenize text = .ok ts) ∨ ∃ stray, tokenize text = .error stray) ∧
      (∀ ts, tokenize text = .ok ts ↔
        Tiled 0 text.toList ts.tokens [] ∧ ts.stop = text.length) ∧
      (∀ stray, tokenize text = .error stray → ∃ before ts rest,
        text.toList = before ++ stray.character :: rest ∧ stray.offset = before.length ∧
        Tiled 0 text.toList ts (stray.character :: rest) ∧
        tokenize (String.ofList before) = .ok ⟨ts, stray.offset⟩ ∧
        isBlank stray.character = false ∧
        ∀ u t, IsLexeme u t → ¬ u <+: stray.character :: rest) ∧
      ∀ u t t', IsLexeme u t → IsLexeme u t' → t = t' := by
  have hends : ∀ ts, Tiled 0 text.toList ts [] → tokenize text = .ok ⟨ts, text.length⟩ := by
    intro ts htiled
    have hscan := scan_of_tiled_nil htiled
    rwa [Nat.zero_add, String.length_toList] at hscan
  obtain ⟨ts, rest, htiled, rfl | ⟨c, r, rfl, hc, hl⟩⟩ := exists_tiled 0 text.toList
  · have htext := hends ts htiled
    refine ⟨.inl ⟨_, htext⟩, fun us => ⟨fun hus => ?_, ?_⟩, fun stray hstray => ?_, fun _ _ _ =>
      IsLexeme.unique⟩
    · obtain rfl := Except.ok.inj (htext.symm.trans hus)
      exact ⟨htiled, rfl⟩
    · rintro ⟨hus, hstop⟩
      rw [hends us.tokens hus, ← hstop]
    · cases htext.symm.trans hstray
  · obtain ⟨before, hs, hbefore⟩ := htiled.exists_before
    have htext : tokenize text = .error ⟨c, before.length⟩ := by
      rw [hs] at htiled
      have hscan := scan_of_tiled_stray htiled hc hl
      rwa [← hs, Nat.zero_add] at hscan
    refine ⟨.inr ⟨_, htext⟩, fun us => ⟨fun hus => ?_, ?_⟩, fun stray hstray => ?_, fun _ _ _ =>
      IsLexeme.unique⟩
    · cases htext.symm.trans hus
    · rintro ⟨hus, -⟩
      cases htext.symm.trans (hends us.tokens hus)
    · obtain rfl := Except.error.inj (htext.symm.trans hstray)
      refine ⟨before, ts, r, hs, rfl, htiled, ?_, hc, (lexeme?_eq_none_iff c r).1 hl⟩
      rw [tokenize, String.toList_ofList, scan_of_tiled_nil hbefore, Nat.zero_add]

/-- A point with no digit behind it: no numeral is longer than the one before it, and the point
begins no lexeme, although a path goes on with one. -/
theorem tokenize_tiled_point :
    let part := "a.b>= -1"
    let ts : List Located :=
      [⟨.path "a.b", 0⟩, ⟨.relation .ge, 3⟩, ⟨.number ⟨true, ['1'], none⟩, 6⟩]
    tokenize "a.b>= -1." = .error ⟨'.', 8⟩ ∧ tokenize part = .ok ⟨ts, 8⟩ ∧
      Tiled 0 part.toList ts [] ∧ Tiled 0 "a.b>= -1.".toList ts ['.'] ∧
      ∀ u t, IsLexeme u t → ¬ u <+: ['.'] := by
  intro part ts
  have hstray : tokenize "a.b>= -1." = .error ⟨'.', 8⟩ := by decide +kernel
  have hpart : tokenize part = .ok ⟨ts, 8⟩ := by decide +kernel
  obtain ⟨-, -, herror, -⟩ := tokenize_tiled "a.b>= -1."
  obtain ⟨-, hok, -, -⟩ := tokenize_tiled part
  obtain ⟨before, us, rest, hs, hoffset, htiled, hbefore, -, hlexeme⟩ := herror _ hstray
  -- the offset tells which part was read
  have hsplit : part.toList ++ '.' :: [] = before ++ '.' :: rest := by
    rw [← hs]
    decide
  obtain ⟨rfl, hrest⟩ := List.append_inj hsplit (by rw [← hoffset]; decide)
  cases hrest
  rw [String.ofList_toList, hpart] at hbefore
  cases hbefore
  exact ⟨hstray, hpart, ((hok _).1 hpart).1, htiled, hlexeme⟩

end Stencil.Condition
