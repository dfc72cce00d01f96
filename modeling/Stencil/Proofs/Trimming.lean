import Mathlib.Data.List.TakeWhile
import Stencil.Text.Blank
import Stencil.Text.Digit
import Stencil.Text.Word

/-!
# Trimming

What trimming does to a text in terms of the text itself: it takes away a run of blanks at either
end, as many as there are.

## Key results

- `trim_eq_nil_iff`: only blanks trim to nothing.
- `exists_blanks_trim`: a text is its trimmed form between two runs of blanks.
- `trim_blanks_append`, `trim_append_blanks`: blanks at an end do not change the trimmed form.
- `trim_of_ends`, `trim_trim`: what has no blank at an end, as a trimmed text, is left as it is.
- `isWord_of_isBlank`, `isDigit_of_isBlank`: no blank is a word character or a digit.
-/

namespace Stencil.Text

/-- The characters of a text are all blank. -/
def IsBlanks (s : List Char) : Prop := ∀ c ∈ s, isBlank c = true

instance (s : List Char) : Decidable (IsBlanks s) :=
  decidable_of_iff (s.all isBlank = true) List.all_eq_true

theorem trimStart_eq_nil_iff (s : List Char) : trimStart s = [] ↔ IsBlanks s :=
  List.dropWhile_eq_nil_iff

/-- A text that does not begin with a blank is left as it is. -/
theorem trimStart_cons_of_not_isBlank (c : Char) (s : List Char) (h : isBlank c = false) :
    trimStart (c :: s) = c :: s := by
  rw [trimStart, List.dropWhile_cons_of_neg (by simp [h])]

theorem trimStart_blanks_append (ws s : List Char) (h : IsBlanks ws) :
    trimStart (ws ++ s) = trimStart s :=
  List.dropWhile_append_of_pos h

/-- Trimming the start does not take away a last character that is no blank. -/
theorem trimStart_concat_of_not_isBlank (s : List Char) (c : Char) (h : isBlank c = false) :
    trimStart (s ++ [c]) = trimStart s ++ [c] := by
  rw [trimStart, List.dropWhile_append]
  split
  · next hs =>
    rw [trimStart, List.isEmpty_iff.1 hs, List.dropWhile_cons_of_neg (by simp [h])]
    rfl
  · rfl

/-- What is trimmed at the start is a run of blanks. -/
theorem exists_blanks_trimStart (s : List Char) : ∃ ws, IsBlanks ws ∧ s = ws ++ trimStart s :=
  ⟨s.takeWhile isBlank, fun _ => List.mem_takeWhile_imp, List.takeWhile_append_dropWhile.symm⟩

/-- Trimming the end is trimming the start of the text read backwards. -/
theorem trimEnd_eq (s : List Char) : trimEnd s = (trimStart s.reverse).reverse := rfl

theorem isBlanks_reverse (ws : List Char) : IsBlanks ws.reverse ↔ IsBlanks ws := by
  simp only [IsBlanks, List.mem_reverse]

theorem trimEnd_append_blanks (s ws : List Char) (h : IsBlanks ws) :
    trimEnd (s ++ ws) = trimEnd s := by
  rw [trimEnd_eq, List.reverse_append, trimStart_blanks_append _ _ ((isBlanks_reverse ws).2 h),
    trimEnd_eq]

/-- What is trimmed at the end is a run of blanks. -/
theorem exists_blanks_trimEnd (s : List Char) : ∃ ws, IsBlanks ws ∧ s = trimEnd s ++ ws := by
  obtain ⟨ws, hws, hs⟩ := exists_blanks_trimStart s.reverse
  refine ⟨ws.reverse, (isBlanks_reverse ws).2 hws, ?_⟩
  rw [trimEnd_eq, ← List.reverse_append, ← hs, List.reverse_reverse]

/-- A text that does not end with a blank is left as it is. -/
theorem trimEnd_append_of_not_isBlank (s : List Char) (c : Char) (h : isBlank c = false) :
    trimEnd (s ++ [c]) = s ++ [c] := by
  rw [trimEnd_eq, List.reverse_append, List.reverse_singleton, List.singleton_append,
    trimStart_cons_of_not_isBlank c _ h, List.reverse_cons, List.reverse_reverse]

/-- Trimming the end stops in the last part that is not blank. -/
theorem trimEnd_append (s t : List Char) (h : ¬ IsBlanks t) :
    trimEnd (s ++ t) = s ++ trimEnd t := by
  rw [trimEnd_eq, List.reverse_append, trimStart, List.dropWhile_append]
  -- read backwards, the trimming ends inside `t`
  have hne : ¬ (t.reverse.dropWhile isBlank).isEmpty = true := by
    rw [List.isEmpty_iff]
    intro ht
    exact h ((isBlanks_reverse t).1 ((trimStart_eq_nil_iff t.reverse).1 ht))
  rw [if_neg hne, List.reverse_append, List.reverse_reverse]
  rfl

/-- Trimming leaves nothing of a text of blanks, and of no other. -/
theorem trim_eq_nil_iff (s : List Char) : trim s = [] ↔ IsBlanks s := by
  rw [trim, trimEnd_eq, List.reverse_eq_nil_iff, trimStart_eq_nil_iff, isBlanks_reverse]
  constructor
  · intro h
    -- both what is trimmed at the start and what is left are blanks
    obtain ⟨ws, hws, hs⟩ := exists_blanks_trimStart s
    intro c hc
    rw [hs] at hc
    exact (List.mem_append.1 hc).elim (hws c) (h c)
  · intro h
    rw [(trimStart_eq_nil_iff s).2 h]
    exact fun c hc => absurd hc List.not_mem_nil

theorem trim_blanks_append (ws s : List Char) (h : IsBlanks ws) : trim (ws ++ s) = trim s := by
  rw [trim, trimStart_blanks_append ws s h, trim]

theorem trim_append_blanks (s ws : List Char) (h : IsBlanks ws) : trim (s ++ ws) = trim s := by
  by_cases hs : IsBlanks s
  · have hall : IsBlanks (s ++ ws) := fun c hc => (List.mem_append.1 hc).elim (hs c) (h c)
    rw [(trim_eq_nil_iff s).2 hs, (trim_eq_nil_iff (s ++ ws)).2 hall]
  · -- something of `s` is kept, so the blanks of `ws` are trimmed at the end
    have hne : ¬ (s.dropWhile isBlank).isEmpty = true := by
      rw [List.isEmpty_iff]
      exact fun he => hs ((trimStart_eq_nil_iff s).1 he)
    have hstart : trimStart (s ++ ws) = trimStart s ++ ws := by
      rw [trimStart, List.dropWhile_append, if_neg hne, ← trimStart]
    rw [trim, hstart, trimEnd_append_blanks _ ws h, trim]

/-- A text is its trimmed form between two runs of blanks. -/
theorem exists_blanks_trim (s : List Char) :
    ∃ front back, IsBlanks front ∧ IsBlanks back ∧ s = front ++ trim s ++ back := by
  obtain ⟨front, hfront, hs⟩ := exists_blanks_trimStart s
  obtain ⟨back, hback, ht⟩ := exists_blanks_trimEnd (trimStart s)
  refine ⟨front, back, hfront, hback, ?_⟩
  rw [List.append_assoc, trim, ← ht, ← hs]

/-- A trimmed text is a part of the text. -/
theorem trim_sublist (s : List Char) : (trim s).Sublist s :=
  (List.reverse_sublist.2 (List.dropWhile_sublist _)).trans
    ((List.reverse_reverse _).symm ▸ List.dropWhile_sublist _)

/-! ## Trimmed texts -/

theorem head?_trimStart (s : List Char) : ∀ c ∈ (trimStart s).head?, isBlank c = false := by
  intro c hc
  have hnot := List.head?_dropWhile_not isBlank s
  rw [trimStart] at hc
  rw [hc] at hnot
  simpa using hnot

theorem getLast?_trimEnd (s : List Char) : ∀ c ∈ (trimEnd s).getLast?, isBlank c = false := by
  rw [trimEnd_eq, List.getLast?_reverse]
  exact head?_trimStart s.reverse

/-- A trimmed text does not begin with a blank. -/
theorem head?_trim (s : List Char) : ∀ c ∈ (trim s).head?, isBlank c = false := by
  intro c hc
  obtain ⟨ws, _, hs⟩ := exists_blanks_trimEnd (trimStart s)
  -- what is trimmed at the end is behind the first character
  have hhead : c ∈ (trimStart s).head? := by
    rw [hs, List.head?_append, ← trim, Option.mem_def.1 hc]
    rfl
  exact head?_trimStart s c hhead

/-- A trimmed text does not end with a blank. -/
theorem getLast?_trim (s : List Char) : ∀ c ∈ (trim s).getLast?, isBlank c = false :=
  getLast?_trimEnd (trimStart s)

theorem trimStart_of_head? (s : List Char) (h : ∀ c ∈ s.head?, isBlank c = false) :
    trimStart s = s := by
  cases s with
  | nil => rfl
  | cons c s => exact trimStart_cons_of_not_isBlank c s (h c rfl)

/-- A text with no blank at either end has nothing to trim. -/
theorem trim_of_ends (s : List Char) (hfirst : ∀ c ∈ s.head?, isBlank c = false)
    (hlast : ∀ c ∈ s.getLast?, isBlank c = false) : trim s = s := by
  rw [← List.head?_reverse] at hlast
  rw [trim, trimStart_of_head? s hfirst, trimEnd_eq, trimStart_of_head? s.reverse hlast,
    List.reverse_reverse]

/-- Trimming a text that does not begin with a blank keeps its first character. -/
theorem head?_trim_of_head? (s : List Char) (h : ∀ c ∈ s.head?, isBlank c = false) :
    (trim s).head? = s.head? := by
  obtain ⟨ws, hws, hs⟩ := exists_blanks_trimEnd s
  rw [trim, trimStart_of_head? s h]
  cases htrim : trimEnd s with
  | nil =>
    -- then the text is a run of blanks, and there is no first one
    rw [htrim, List.nil_append] at hs
    subst hs
    cases s with
    | nil => rfl
    | cons c s =>
      have hc := hws c List.mem_cons_self
      rw [h c rfl] at hc
      cases hc
  | cons c r =>
    rw [htrim, List.cons_append] at hs
    rw [hs]
    rfl

/-- Trimming once is enough. -/
theorem trim_trim (s : List Char) : trim (trim s) = trim s :=
  trim_of_ends (trim s) (head?_trim s) (getLast?_trim s)

/-- A text without blanks has nothing to trim. -/
theorem trim_of_not_isBlank (s : List Char) (h : ∀ c ∈ s, isBlank c = false) : trim s = s :=
  trim_of_ends s (fun c hc => h c (List.mem_of_mem_head? hc))
    fun c hc => h c (List.mem_of_mem_getLast? hc)

/-! ## Blanks beside words and digits -/

/-- All blank characters. -/
def blanks : List Char :=
  [9, 10, 11, 12, 13, 28, 29, 30, 31, 32, 0x85, 0xA0, 0x1680, 0x2000, 0x2001, 0x2002, 0x2003,
    0x2004, 0x2005, 0x2006, 0x2007, 0x2008, 0x2009, 0x200A, 0x2028, 0x2029, 0x202F, 0x205F,
    0x3000].map Char.ofNat

theorem mem_blanks_of_isBlank (c : Char) (h : isBlank c = true) : c ∈ blanks := by
  -- the ranges of `isBlank`, one code point after another
  refine List.mem_map.2 ⟨c.toNat, ?_, Char.ofNat_toNat c⟩
  simp only [isBlank, Bool.or_eq_true, Bool.and_eq_true, decide_eq_true_eq, beq_iff_eq] at h
  simp only [List.mem_cons, List.not_mem_nil, or_false]
  omega

/-- No blank is a word character. -/
theorem isWord_of_isBlank (c : Char) (h : isBlank c = true) : isWord c = false := by
  have hall : (blanks.all fun c => !isWord c) = true := by decide +kernel
  simpa using List.all_eq_true.1 hall c (mem_blanks_of_isBlank c h)

/-- No blank is a digit. -/
theorem isDigit_of_isBlank (c : Char) (h : isBlank c = true) : isDigit c = false := by
  have hall : (blanks.all fun c => !isDigit c) = true := by decide +kernel
  simpa using List.all_eq_true.1 hall c (mem_blanks_of_isBlank c h)

/-- A run goes on to where it did when what is put behind the text begins with no character of its
kind. -/
theorem takeWhile_append_of_not (p : Char → Bool) (s u : List Char)
    (hu : ∀ c ∈ u.head?, p c = false) : (s ++ u).takeWhile p = s.takeWhile p := by
  induction s with
  | nil =>
    cases u with
    | nil => rfl
    | cons c u =>
      rw [List.nil_append, List.takeWhile_cons, hu c rfl]
      rfl
  | cons c s ih =>
    rw [List.cons_append, List.takeWhile_cons, List.takeWhile_cons, ih]

theorem dropWhile_append_of_not (p : Char → Bool) (s u : List Char)
    (hu : ∀ c ∈ u.head?, p c = false) : (s ++ u).dropWhile p = s.dropWhile p ++ u := by
  induction s with
  | nil =>
    cases u with
    | nil => rfl
    | cons c u =>
      rw [List.nil_append, List.dropWhile_cons, hu c rfl]
      rfl
  | cons c s ih =>
    rw [List.cons_append, List.dropWhile_cons, List.dropWhile_cons, ih]
    split <;> rfl

end Stencil.Text
