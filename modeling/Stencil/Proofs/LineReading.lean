import Stencil.Text.Blank
import Stencil.Text.Line

/-!
# Lines of a text

No line of a text has a character that ends lines, and lines that have none are the lines of the
text in which line feeds stand between them. None of them may be empty for that, since a line feed
at the very end opens no further line.

## Key results

- `not_isLineBreak_of_not_isBlank`: whatever ends a line is blank.
- `isUnbroken_of_mem_lines`: nothing in a line of a text ends lines.
- `lines_append`, `lines_intercalate`: the lines of a text that was put together from lines.
-/

namespace Stencil.Text

/-- Whatever ends a line is blank. -/
theorem not_isLineBreak_of_not_isBlank (c : Char) (h : isBlank c = false) :
    isLineBreak c = false := by
  rw [Bool.eq_false_iff] at h ⊢
  refine mt (fun hbreak => ?_) h
  simp only [isLineBreak, Bool.or_eq_true, Bool.and_eq_true, decide_eq_true_eq,
    beq_iff_eq] at hbreak
  simp only [isBlank, Bool.or_eq_true, Bool.and_eq_true, decide_eq_true_eq, beq_iff_eq]
  omega

/-- No character of the text ends a line. -/
def IsUnbroken (s : List Char) : Prop := ∀ c ∈ s, isLineBreak c = false

instance (s : List Char) : Decidable (IsUnbroken s) :=
  decidable_of_iff ((s.all fun c => !isLineBreak c) = true) (by simp [IsUnbroken])

theorem isUnbroken_nil : IsUnbroken [] := List.forall_mem_nil _

theorem isUnbroken_cons (c : Char) (s : List Char) :
    IsUnbroken (c :: s) ↔ isLineBreak c = false ∧ IsUnbroken s := List.forall_mem_cons

theorem isUnbroken_append (s t : List Char) :
    IsUnbroken (s ++ t) ↔ IsUnbroken s ∧ IsUnbroken t := List.forall_mem_append

/-- A part of one line is on one line. -/
theorem IsUnbroken.sublist {s t : List Char} (h : IsUnbroken t) (hs : s.Sublist t) :
    IsUnbroken s := fun c hc => h c (hs.mem hc)

/-! ## The lines that are read -/

/-- No line has a character that ends lines. -/
theorem isUnbroken_of_mem_lines (s : List Char) : ∀ line ∈ lines s, IsUnbroken line := by
  fun_induction lines s with
  | case1 => exact List.forall_mem_nil _
  | case2 s ih => exact List.forall_mem_cons.2 ⟨isUnbroken_nil, ih⟩
  | case3 s _ ih => exact List.forall_mem_cons.2 ⟨isUnbroken_nil, ih⟩
  | case4 c s _ _ ih => exact List.forall_mem_cons.2 ⟨isUnbroken_nil, ih⟩
  | case5 c s _ hc hlines ih =>
    -- the last character of the text
    refine List.forall_mem_singleton.2 ((isUnbroken_cons c []).2 ⟨?_, isUnbroken_nil⟩)
    exact Bool.eq_false_iff.2 hc
  | case6 c s _ hc line rest hlines ih =>
    rw [hlines, List.forall_mem_cons] at ih
    refine List.forall_mem_cons.2 ⟨(isUnbroken_cons c line).2 ⟨?_, ih.1⟩, ih.2⟩
    exact Bool.eq_false_iff.2 hc

/-- A character that ends no line is put before the first line. -/
theorem lines_cons (c : Char) (s : List Char) (h : isLineBreak c = false) :
    lines (c :: s) = (c :: (lines s).headD []) :: (lines s).tail := by
  have hreturn : c ≠ '\r' := by
    rintro rfl
    exact absurd h (by decide)
  conv => lhs; unfold lines
  rw [if_neg hreturn, h]
  cases lines s <;> rfl

/-- The first line of a text. -/
theorem lines_append (s rest : List Char) (h : IsUnbroken s) :
    lines (s ++ '\n' :: rest) = s :: lines rest := by
  induction s with
  | nil =>
    rw [List.nil_append]
    conv => lhs; unfold lines
    rw [if_neg (by decide), if_pos (by decide)]
  | cons c s ih =>
    rw [isUnbroken_cons] at h
    rw [List.cons_append, lines_cons c _ h.1, ih h.2]
    rfl

/-- A text in which nothing ends a line is one line. -/
theorem lines_of_isUnbroken (s : List Char) (hne : s ≠ []) (h : IsUnbroken s) : lines s = [s] := by
  induction s with
  | nil => exact absurd rfl hne
  | cons c s ih =>
    rw [isUnbroken_cons] at h
    rw [lines_cons c s h.1]
    cases s with
    | nil => rfl
    | cons d s =>
      rw [ih (List.cons_ne_nil d s) h.2]
      rfl

/-- Lines with line feeds between them are read as they were. -/
theorem lines_intercalate (ls : List (List Char)) (h : ∀ line ∈ ls, line ≠ [] ∧ IsUnbroken line) :
    lines (List.intercalate ['\n'] ls) = ls := by
  induction ls with
  | nil => rfl
  | cons line ls ih =>
    obtain ⟨⟨hne, hline⟩, hrest⟩ := List.forall_mem_cons.1 h
    cases ls with
    | nil => rw [List.intercalate_singleton, lines_of_isUnbroken line hne hline]
    | cons next ls =>
      rw [List.intercalate_cons_cons, List.append_assoc, List.singleton_append,
        lines_append line _ hline, ih hrest]

end Stencil.Text
