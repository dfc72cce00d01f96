import Stencil.Condition.Token
import Stencil.Proofs.Trimming

/-!
# Lexemes of a condition at a seam

A lexeme is as long as it can be, so what follows it in a longer text might go on with it. A text
that ends every lexeme before it (`EndsLexemes`) is empty or begins with none of the characters that
a name, a numeral or an operator goes on with: with a blank, say, or a closing parenthesis. What is
read before such a text is what is read without it, except that a string which is not closed may
find its quote there.

## Key results

- `readNumber?_seam`, `readSymbol?_seam`, `readName?_seam`: numerals, operators and names.
- `lexeme?_seam`: a lexeme that is read is read before a seam as well.
-/

namespace Stencil

open Stencil.Text

/-- The characters that a fraction, an operator or a path goes on with. -/
def joints : List Char := ['.', '=', '&', '|']

/-- No lexeme goes on into the text. -/
def EndsLexemes (rest : List Char) : Prop :=
  ∀ c ∈ rest.head?, isWord c = false ∧ isDigit c = false ∧ c ∉ joints

theorem endsLexemes_of_isBlanks (ws : List Char) (hws : IsBlanks ws) : EndsLexemes ws := by
  intro c hc
  have hblank := hws c (List.mem_of_mem_head? hc)
  have hjoints : joints.all (fun c => !isBlank c) = true := by decide
  refine ⟨isWord_of_isBlank c hblank, isDigit_of_isBlank c hblank, fun hm => ?_⟩
  have hnot := List.all_eq_true.1 hjoints c hm
  rw [hblank] at hnot
  cases hnot

section Seam

variable (rest : List Char) (hrest : EndsLexemes rest)

include hrest

/-- A mark does not come into being at a seam if it would go on with a joint there. -/
theorem not_append_seam (mark s : List Char) (hmark : ∀ c ∈ mark.drop s.length, c ∈ joints)
    (h : ∀ r, s = mark ++ r → False) (r : List Char) (hr : s ++ rest = mark ++ r) : False := by
  rcases List.append_eq_append_iff.1 hr with ⟨t, rfl, rfl⟩ | ⟨t, ht, -⟩
  · cases t with
    | nil => exact h [] (by rw [List.append_nil, List.append_nil])
    | cons c t =>
      -- the rest of the mark would begin with a joint
      exact (hrest c rfl).2.2 (hmark c (by simp))
  · exact h t ht

/-- The case of a mark that is a joint. -/
theorem not_cons_append_seam (a : Char) (ha : a ∈ joints) (s : List Char)
    (h : ∀ r, s = a :: r → False) (r : List Char) (hr : s ++ rest = a :: r) : False :=
  not_append_seam rest hrest [a] s
    (fun _ hc => List.mem_singleton.1 (List.mem_of_mem_drop hc) ▸ ha) h r hr

/-! ## Numerals -/

namespace Numeral

theorem readFraction?_seam (s : List Char) : readFraction? (s ++ rest) =
    (readFraction? s).map fun (digits, r) => (digits, r ++ rest) := by
  have hdigit : ∀ c ∈ rest.head?, isDigit c = false := fun c hc => (hrest c hc).2.1
  by_cases hpoint : ∃ r, s = '.' :: r
  · obtain ⟨s, rfl⟩ := hpoint
    rw [List.cons_append, readFraction?, readFraction?, takeWhile_append_of_not _ _ _ hdigit,
      dropWhile_append_of_not _ _ _ hdigit]
    split <;> rfl
  · have hs : ∀ r, s = '.' :: r → False := fun r hr => hpoint ⟨r, hr⟩
    rw [readFraction?, readFraction?]
    · rfl
    · exact hs
    · exact not_cons_append_seam rest hrest '.' (by decide) s hs

theorem readUnsigned?_seam (negative : Bool) (s : List Char) : readUnsigned? negative (s ++ rest) =
    (readUnsigned? negative s).map fun (n, r) => (n, r ++ rest) := by
  have hdigit : ∀ c ∈ rest.head?, isDigit c = false := fun c hc => (hrest c hc).2.1
  unfold readUnsigned?
  rw [takeWhile_append_of_not _ _ _ hdigit, dropWhile_append_of_not _ _ _ hdigit]
  split
  · rfl
  · dsimp only
    rw [readFraction?_seam rest hrest]
    cases readFraction? (s.dropWhile isDigit) <;> rfl

theorem read?_seam (c : Char) (s : List Char) : read? (c :: s ++ rest) =
    (read? (c :: s)).map fun (n, r) => (n, r ++ rest) := by
  by_cases hsign : c = '-'
  · subst hsign
    exact readUnsigned?_seam rest hrest true s
  · have hc : ∀ s r, c :: s = '-' :: r → False := fun s r hr => hsign (List.cons.inj hr).1
    rw [read?, List.cons_append, read?, ← List.cons_append]
    · exact readUnsigned?_seam rest hrest false (c :: s)
    · exact hc s
    · exact hc (s ++ rest)

end Numeral

namespace Condition

/-- The lexeme when `u` is put behind its text. -/
def Lexeme.before (u : List Char) (l : Lexeme) : Lexeme := ⟨l.token, l.width, l.rest ++ u⟩

theorem readNumber?_seam (c : Char) (s : List Char) :
    readNumber? (c :: s ++ rest) = (readNumber? (c :: s)).map (Lexeme.before rest) := by
  unfold readNumber?
  rw [Numeral.read?_seam rest hrest, Option.map_map, Option.map_map]
  rfl

/-! ## Operators -/

theorem readSymbol?_seam (c : Char) (s : List Char) :
    readSymbol? (c :: s ++ rest) = (readSymbol? (c :: s)).map (Lexeme.before rest) := by
  have hone := not_cons_append_seam rest hrest
  -- the first character of a mark is there already, and those after it are joints
  have hmark : ∀ a more, (∀ d ∈ more, d ∈ joints) → (∀ r, c :: s = a :: more ++ r → False) →
      ∀ r, c :: s ++ rest = a :: more ++ r → False := fun a more hmore =>
    not_append_seam rest hrest (a :: more) (c :: s)
      fun d hd => hmore d (List.mem_of_mem_drop hd)
  have hsame : ∀ a, (∀ r, c :: s = a :: r → False) → ∀ r, c :: s ++ rest = a :: r → False :=
    fun a => hmark a [] nofun
  have htwo : ∀ a b, b ∈ joints → (∀ r, c :: s = a :: b :: r → False) →
      ∀ r, c :: s ++ rest = a :: b :: r → False := fun a b hb =>
    hmark a [b] (by simpa using hb)
  have hthree : ∀ a b d, b ∈ joints → d ∈ joints → (∀ r, c :: s = a :: b :: d :: r → False) →
      ∀ r, c :: s ++ rest = a :: b :: d :: r → False := fun a b d hb hd =>
    hmark a [b, d] (by simp [hb, hd])
  -- a symbol that is the start of another one is still not followed by the rest of that one
  generalize c :: s = text at hsame htwo hthree ⊢
  fun_cases readSymbol? text
  case case3 s h =>
    show readSymbol? ('=' :: '=' :: (s ++ rest)) = _
    rw [readSymbol?]
    · rfl
    · exact hone '=' (by decide) s h
  case case4 s h =>
    show readSymbol? ('!' :: '=' :: (s ++ rest)) = _
    rw [readSymbol?]
    · rfl
    · exact hone '=' (by decide) s h
  case case9 s h =>
    show readSymbol? ('<' :: (s ++ rest)) = _
    rw [readSymbol?]
    · rfl
    · exact hone '=' (by decide) s h
  case case10 s h =>
    show readSymbol? ('>' :: (s ++ rest)) = _
    rw [readSymbol?]
    · rfl
    · exact hone '=' (by decide) s h
  case case11 s h₂ h₁ =>
    show readSymbol? ('!' :: (s ++ rest)) = _
    rw [readSymbol?]
    · rfl
    · exact not_append_seam rest hrest ['=', '='] s (fun c hc => by
        have := List.mem_of_mem_drop hc
        simp_all [joints]) h₂
    · exact hone '=' (by decide) s h₁
  case case14 =>
    rw [readSymbol?]
    · rfl
    all_goals first
      | exact hthree _ _ _ (by decide) (by decide) (by assumption)
      | exact htwo _ _ (by decide) (by assumption)
      | exact hsame _ (by assumption)
  all_goals rfl

/-! ## Names -/

theorem readSegments_seam (s : List Char) :
    readSegments (s ++ rest) = ((readSegments s).1, (readSegments s).2 ++ rest) := by
  have hword : ∀ c ∈ rest.head?, isWord c = false := fun c hc => (hrest c hc).1
  fun_induction readSegments s with
  | case1 c s hc segment more r hrec ih =>
    rw [List.cons_append, List.cons_append, readSegments, if_pos hc]
    dsimp only
    rw [takeWhile_append_of_not _ _ _ hword, dropWhile_append_of_not _ _ _ hword, ih, hrec]
  | case2 c s hc =>
    rw [List.cons_append, List.cons_append, readSegments, if_neg hc]
  | case3 s hs =>
    by_cases hdot : s = ['.']
    · subst hdot
      cases rest with
      | nil =>
        rw [List.append_nil, readSegments]
        exact hs
      | cons w ws =>
        -- no segment begins after the dot
        have hw : ¬ isWord w = true := by simp [hword w rfl]
        show readSegments ('.' :: w :: ws) = _
        rw [readSegments, if_neg hw]
        rfl
    · rw [readSegments]
      intro c r hr
      refine not_cons_append_seam rest hrest '.' (by decide) s (fun q hq => ?_) (c :: r) hr
      cases q with
      | nil => exact hdot hq
      | cons d q => exact hs d q hq

theorem readName?_seam (c : Char) (s : List Char) :
    readName? c (s ++ rest) = (readName? c s).map (Lexeme.before rest) := by
  have hword : ∀ c ∈ rest.head?, isWord c = false := fun c hc => (hrest c hc).1
  unfold readName? readPath
  rw [takeWhile_append_of_not _ _ _ hword, dropWhile_append_of_not _ _ _ hword,
    readSegments_seam rest hrest]
  split <;> rfl

end Condition

end Seam

namespace Condition

/-! ## Strings, and all lexemes -/

theorem readQuoted?_cons (quote c : Char) (s : List Char) :
    readQuoted? quote (c :: s) =
      if c = quote then some ([], s)
      else if c = '\\' then
        match s with
        | [] => none
        | d :: s => (readQuoted? quote s).map fun (body, rest) => (c :: d :: body, rest)
      else (readQuoted? quote s).map fun (body, rest) => (c :: body, rest) := by
  cases s <;> rfl

/-- A string that is closed is read up to its quote, whatever follows. -/
theorem readQuoted?_seam (rest : List Char) (quote : Char) (s body r : List Char)
    (h : readQuoted? quote s = some (body, r)) :
    readQuoted? quote (s ++ rest) = some (body, r ++ rest) := by
  fun_induction readQuoted? quote s generalizing body with
  | case1 => cases h
  | case2 s =>
    cases h
    rw [List.cons_append, readQuoted?_cons, if_pos rfl]
  | case3 => cases h
  | case4 d s hne ih =>
    obtain ⟨⟨b, q⟩, hs, hb⟩ := Option.map_eq_some_iff.1 h
    cases hb
    rw [List.cons_append, List.cons_append, readQuoted?_cons, if_neg hne, if_pos rfl]
    dsimp only
    rw [ih b hs]
    rfl
  | case5 c s hne hback ih =>
    obtain ⟨⟨b, q⟩, hs, hb⟩ := Option.map_eq_some_iff.1 h
    cases hb
    rw [List.cons_append, readQuoted?_cons, if_neg hne, if_neg hback, ih b hs]
    rfl

/-- A lexeme that is read is read before a seam as well. -/
theorem lexeme?_seam (rest : List Char) (hrest : EndsLexemes rest) (c : Char) (s : List Char)
    (l : Lexeme) (h : lexeme? c s = some l) : lexeme? c (s ++ rest) = some (l.before rest) := by
  unfold lexeme? at h ⊢
  split at h
  · next hquote =>
    obtain ⟨⟨body, r⟩, hbody, rfl⟩ := Option.map_eq_some_iff.1 h
    rw [if_pos hquote, readString?, readQuoted?_seam rest c s body r hbody]
    rfl
  · next hquote =>
    rw [if_neg hquote, ← List.cons_append, readNumber?_seam rest hrest,
      readSymbol?_seam rest hrest, readName?_seam rest hrest, ← Option.map_or, ← Option.map_or, h]
    rfl

end Condition

end Stencil
