import Stencil.Text.Search

/-!
# Occurrences of a mark in a text

`Text.cut?` walks a text until it meets a mark. Here the place where it stops is told by offsets:
`OccursAt mark s i` says that `mark` stands at the offset `i` of `s`, and `FirstAt mark s start i`
that `i` is the least such offset from `start` on.

All statements are about a text `pre ++ s` of which `cut?` sees only `s`, so that they speak of
offsets of the whole text.

## Key results

- `firstAt_of_cut?`: where `cut?` cuts is the first occurrence.
- `not_occursAt_of_cut?_eq_none`: where `cut?` finds nothing there is no occurrence.
- `cut?_append_of_eq_some`: a cut does not depend on what follows the mark.
- `cut?_append_of_not_infix`, `cut?_of_not_mem`: where a text is cut that was put together around a
  mark.
- `cut?_eq_some_iff`, `cut?_eq_none_iff`: cuts, by what stands before the mark.
-/

namespace Stencil.Text

/-- `mark` stands at the offset `i` of `s`. -/
def OccursAt (mark s : List Char) (i : Nat) : Prop := mark <+: s.drop i

/-- `i` is the first offset from `start` on at which `mark` stands in `s`. -/
structure FirstAt (mark s : List Char) (start i : Nat) : Prop where
  le : start ≤ i
  occursAt : OccursAt mark s i
  least : ∀ j, start ≤ j → j < i → ¬ OccursAt mark s j

/-- Behind a prefix, an occurrence is one of the rest. -/
theorem occursAt_append (mark pre s : List Char) (i : Nat) :
    OccursAt mark (pre ++ s) (pre.length + i) ↔ OccursAt mark s i := by
  unfold OccursAt
  rw [List.drop_append, List.drop_eq_nil_of_le (by omega), List.nil_append,
    show pre.length + i - pre.length = i from by omega]

/-- A mark stands where a prefix ends if the rest begins with it. -/
theorem occursAt_length (mark pre s : List Char) : OccursAt mark (pre ++ s) pre.length ↔
    mark <+: s := by
  have h := occursAt_append mark pre s 0
  rwa [Nat.add_zero, OccursAt, OccursAt, List.drop_zero] at h

theorem afterPrefix?_eq_none_iff (mark s : List Char) :
    afterPrefix? mark s = none ↔ ¬ mark <+: s := by
  constructor
  · rintro h ⟨r, hr⟩
    rw [afterPrefix?_eq_some_iff.2 hr.symm] at h
    cases h
  · intro h
    cases hr : afterPrefix? mark s with
    | none => rfl
    | some r => exact absurd ⟨r, (afterPrefix?_eq_some_iff.1 hr).symm⟩ h

/-- The text that a cut takes apart. -/
private theorem cut?_cons_of_not_occurs (mark : List Char) (c : Char) (s : List Char)
    (h : ¬ mark <+: c :: s) :
    cut? mark (c :: s) = (cut? mark s).map fun (a, b) => (c :: a, b) := by
  rw [cut?, (afterPrefix?_eq_none_iff mark (c :: s)).2 h]

/-- An offset from `pre.length` on is that one or one behind the next character. -/
private theorem occursAt_cons_cases (mark pre : List Char) (c : Char) (s : List Char) (i : Nat)
    (hi : pre.length ≤ i) (h : OccursAt mark (pre ++ c :: s) i) :
    (i = pre.length ∧ mark <+: c :: s) ∨
      (pre ++ [c]).length ≤ i ∧ OccursAt mark ((pre ++ [c]) ++ s) i := by
  rw [List.append_assoc, List.singleton_append, List.length_append, List.length_singleton]
  by_cases he : i = pre.length
  · subst he
    exact .inl ⟨rfl, (occursAt_length mark pre (c :: s)).1 h⟩
  · exact .inr ⟨by omega, h⟩

/-- Where a text is cut, the mark occurs for the first time. -/
theorem firstAt_of_cut? (mark pre s a b : List Char) (h : cut? mark s = some (a, b)) :
    FirstAt mark (pre ++ s) pre.length (pre.length + a.length) := by
  -- on the text, with the characters that were passed in the prefix
  induction s generalizing pre a with
  | nil =>
    obtain ⟨r, hr, hab⟩ := Option.map_eq_some_iff.1 h
    cases hab
    refine ⟨by simp, ?_, fun j h₁ h₂ => absurd h₂ (by simp; omega)⟩
    rw [List.length_nil, Nat.add_zero, occursAt_length]
    exact ⟨b, (afterPrefix?_eq_some_iff.1 hr).symm⟩
  | cons c s ih =>
    by_cases hp : mark <+: c :: s
    · -- the mark stands right here
      obtain ⟨r, hr⟩ := hp
      rw [cut?, afterPrefix?_eq_some_iff.2 hr.symm] at h
      cases h
      refine ⟨by simp, ?_, fun j h₁ h₂ => absurd h₂ (by simp; omega)⟩
      rw [List.length_nil, Nat.add_zero, occursAt_length]
      exact ⟨b, hr⟩
    · rw [cut?_cons_of_not_occurs mark c s hp] at h
      obtain ⟨⟨a', b'⟩, hs, hab⟩ := Option.map_eq_some_iff.1 h
      cases hab
      have hfirst := ih (pre ++ [c]) a' hs
      have hlen : (pre ++ [c]).length + a'.length = pre.length + (c :: a').length := by
        simp; omega
      rw [hlen, List.append_assoc, List.singleton_append] at hfirst
      -- an earlier occurrence would be right here or behind the next character
      refine ⟨by omega, hfirst.occursAt, fun j h₁ h₂ hj => ?_⟩
      rcases occursAt_cons_cases mark pre c s j h₁ hj with ⟨-, hc⟩ | ⟨hle, -⟩
      · exact hp hc
      · exact hfirst.least j hle h₂ hj

/-- Where a text cannot be cut, the mark does not occur. -/
theorem not_occursAt_of_cut?_eq_none (mark pre s : List Char) (h : cut? mark s = none) (i : Nat)
    (hi : pre.length ≤ i) : ¬ OccursAt mark (pre ++ s) i := by
  induction s generalizing pre with
  | nil =>
    -- nothing is left, and the mark is not empty
    rw [cut?, Option.map_eq_none_iff, afterPrefix?_eq_none_iff] at h
    unfold OccursAt
    rwa [List.drop_eq_nil_of_le (by simpa using hi)]
  | cons c s ih =>
    by_cases hp : mark <+: c :: s
    · obtain ⟨r, hr⟩ := hp
      rw [cut?, afterPrefix?_eq_some_iff.2 hr.symm] at h
      cases h
    · rw [cut?_cons_of_not_occurs mark c s hp, Option.map_eq_none_iff] at h
      intro hc
      rcases occursAt_cons_cases mark pre c s i hi hc with ⟨-, hc⟩ | ⟨hle, hc⟩
      · exact hp hc
      · exact ih (pre ++ [c]) h hle hc

/-- What follows a text does not change where it is cut. -/
theorem cut?_append_of_eq_some (mark s u a b : List Char) (h : cut? mark s = some (a, b)) :
    cut? mark (s ++ u) = some (a, b ++ u) := by
  induction s generalizing a with
  | nil =>
    obtain ⟨r, hr, hab⟩ := Option.map_eq_some_iff.1 h
    cases hab
    -- the mark is empty, and so is what is left
    obtain ⟨rfl, rfl⟩ := List.append_eq_nil_iff.1 (afterPrefix?_eq_some_iff.1 hr).symm
    cases u <;> simp [cut?, afterPrefix?]
  | cons c s ih =>
    by_cases hp : mark <+: c :: s
    · -- the mark ends before `u`
      obtain ⟨r, hr⟩ := hp
      rw [cut?, afterPrefix?_eq_some_iff.2 hr.symm] at h
      cases h
      have hu : c :: (s ++ u) = mark ++ (b ++ u) := by
        rw [← List.cons_append, ← hr, List.append_assoc]
      rw [List.cons_append, cut?, afterPrefix?_eq_some_iff.2 hu]
    · rw [cut?_cons_of_not_occurs mark c s hp] at h
      obtain ⟨⟨a', b'⟩, hs, hab⟩ := Option.map_eq_some_iff.1 h
      cases hab
      -- the mark fits into `s`, so it cannot need a character of `u` here
      have hlen : mark.length ≤ (c :: s).length := by
        have := length_of_cut? hs
        simp only [List.length_cons]
        omega
      have hp' : ¬ mark <+: c :: (s ++ u) := fun hpu =>
        hp (List.prefix_of_prefix_length_le hpu (List.prefix_append (c :: s) u) hlen)
      rw [List.cons_append, cut?_cons_of_not_occurs mark c (s ++ u) hp', ih a' hs]
      rfl

/-- A text is cut at its start if the mark stands there. -/
theorem cut?_mark_append (mark rest : List Char) :
    cut? mark (mark ++ rest) = some ([], rest) := by
  have hmark : afterPrefix? mark (mark ++ rest) = some rest := afterPrefix?_eq_some_iff.2 rfl
  cases htext : mark ++ rest with
  | nil =>
    rw [htext] at hmark
    rw [cut?, hmark]
    rfl
  | cons c s =>
    rw [htext] at hmark
    rw [cut?, hmark]

/-- A mark whose first character does not come again in it does not reach over another such
character. -/
private theorem not_prefix_over_first (m c : Char) (mark s rest : List Char) (hm : m ∉ mark)
    (h : ¬ m :: mark <+: c :: s) : ¬ m :: mark <+: c :: (s ++ m :: rest) := by
  intro hmark
  have hs : c :: s <+: c :: s ++ m :: rest := List.prefix_append (c :: s) _
  by_cases hlen : (m :: mark).length ≤ (c :: s).length
  · exact h (List.prefix_of_prefix_length_le hmark hs hlen)
  · obtain ⟨t, ht⟩ := List.prefix_of_prefix_length_le hs hmark (by omega)
    rw [← ht, ← List.cons_append, List.prefix_append_right_inj] at hmark
    cases t with
    | nil =>
      simp only [List.append_nil] at ht
      exact hlen (Nat.le_of_eq (by rw [ht]))
    | cons d t =>
      -- the mark goes on behind `s`
      have hmem : d ∈ mark := by simp [← (List.cons.inj ht).2]
      rw [List.cons_prefix_cons] at hmark
      exact hm (hmark.1 ▸ hmem)

/-- A text is cut at a mark that is not in what stands before it, if the first character of the mark
does not come again in it. -/
theorem cut?_append_of_not_infix (m : Char) (mark s rest : List Char) (hm : m ∉ mark)
    (h : ¬ m :: mark <:+: s) : cut? (m :: mark) (s ++ (m :: mark ++ rest)) = some (s, rest) := by
  induction s with
  | nil => exact cut?_mark_append (m :: mark) rest
  | cons c s ih =>
    rw [List.infix_cons_iff, not_or] at h
    have hover : ¬ m :: mark <+: c :: (s ++ (m :: mark ++ rest)) :=
      not_prefix_over_first m c mark s (mark ++ rest) hm h.1
    rw [List.cons_append, cut?_cons_of_not_occurs _ c _ hover, ih h.2]
    rfl

/-- A text is cut at a mark of two different characters if the mark is not in what stands before
it. -/
theorem cut?_append_pair (a b : Char) (hab : a ≠ b) (s rest : List Char) (h : ¬ [a, b] <:+: s) :
    cut? [a, b] (s ++ a :: b :: rest) = some (s, rest) :=
  cut?_append_of_not_infix a [b] s rest (by simpa using hab) h

/-- A text is cut at a mark that is not in what stands before it, if a character that the mark lacks
stands between. -/
theorem cut?_append_of_lacks (mark s rest : List Char) (c : Char) (hc : c ∉ mark)
    (h : ¬ mark <:+: s) : cut? mark (s ++ c :: (mark ++ rest)) = some (s ++ [c], rest) := by
  induction s with
  | nil =>
    -- the mark is not empty, so it cannot stand at the character
    have hhere : ¬ mark <+: c :: (mark ++ rest) := by
      cases mark with
      | nil => exact absurd List.nil_infix h
      | cons m mark => simp [List.cons_prefix_cons, Ne.symm (List.ne_of_not_mem_cons hc)]
    rw [List.nil_append, cut?_cons_of_not_occurs mark c _ hhere, cut?_mark_append]
    rfl
  | cons d s ih =>
    rw [List.infix_cons_iff, not_or] at h
    have hhere : ¬ mark <+: d :: (s ++ c :: (mark ++ rest)) := by
      intro hmark
      have hs : d :: (s ++ [c]) <+: d :: (s ++ c :: (mark ++ rest)) := ⟨mark ++ rest, by simp⟩
      by_cases hlen : mark.length ≤ (d :: s).length
      · exact h.1 (List.prefix_of_prefix_length_le hmark ⟨c :: (mark ++ rest), rfl⟩ hlen)
      · -- a longer mark would go over the character
        have hover := List.prefix_of_prefix_length_le hs hmark (by simp at hlen ⊢; omega)
        exact hc (hover.subset (by simp))
    rw [List.cons_append, cut?_cons_of_not_occurs mark d _ hhere, ih h.2]
    rfl

/-- A mark is not found within characters that lack its first one. -/
theorem cut?_append_of_not_mem (m : Char) (mark w s : List Char) (h : m ∉ w) :
    cut? (m :: mark) (w ++ s) = (cut? (m :: mark) s).map fun (a, b) => (w ++ a, b) := by
  induction w with
  | nil => simp
  | cons c w ih =>
    rw [List.mem_cons, not_or] at h
    rw [List.cons_append, cut?, afterPrefix?, if_neg h.1, ih h.2]
    simp [Option.map_map, Function.comp_def]

/-- A text is cut at a mark whose first character it lacks. -/
theorem cut?_of_not_mem (m : Char) (mark s rest : List Char) (h : m ∉ s) :
    cut? (m :: mark) (s ++ (m :: mark ++ rest)) = some (s, rest) := by
  rw [cut?_append_of_not_mem m mark s _ h, cut?_mark_append]
  simp

/-- What stands before the mark where a text is cut does not have the mark in it. -/
theorem not_infix_of_cut? (mark s a b : List Char) (hmark : mark ≠ [])
    (h : cut? mark s = some (a, b)) : ¬ mark <:+: a := by
  rintro ⟨u, v, ha⟩
  -- the mark would stand at the end of `u`, which is before the first occurrence
  have hfirst := firstAt_of_cut? mark [] s a b h
  have hlen : u.length < a.length := by
    have hpos := List.length_pos_iff.2 hmark
    simp only [← ha, List.length_append]
    omega
  refine hfirst.least u.length (by simp) (by simpa using hlen) ?_
  rw [List.nil_append, eq_append_of_cut? h, ← ha, List.append_assoc u, List.append_assoc u,
    List.append_assoc u, occursAt_length]
  simp

/-- What stands before a mark of one character lacks it. -/
theorem not_mem_of_cut? (m : Char) (s a b : List Char) (h : cut? [m] s = some (a, b)) :
    m ∉ a := by
  intro hmem
  obtain ⟨u, v, ha⟩ := List.append_of_mem hmem
  exact not_infix_of_cut? [m] s a b (List.cons_ne_nil m []) h ⟨u, v, by simp [ha]⟩

/-- A text cannot be cut exactly if the mark is not in it. -/
theorem cut?_eq_none_iff (mark s : List Char) : cut? mark s = none ↔ ¬ mark <:+: s := by
  constructor
  · rintro h ⟨u, v, hs⟩
    have hnot := not_occursAt_of_cut?_eq_none mark [] s h u.length (by simp)
    rw [List.nil_append, ← hs, List.append_assoc, occursAt_length] at hnot
    exact hnot (List.prefix_append mark v)
  · intro h
    cases hcut : cut? mark s with
    | none => rfl
    | some parts => exact absurd ⟨parts.1, parts.2, (eq_append_of_cut? hcut).symm⟩ h

/-- **Cuts are unique.** A text is cut in the one way in which the mark is not in what stands before
it, if the first character of the mark does not come again in it. -/
theorem cut?_eq_some_iff (m : Char) (mark s a b : List Char) (hm : m ∉ mark) :
    cut? (m :: mark) s = some (a, b) ↔ s = a ++ (m :: mark ++ b) ∧ ¬ m :: mark <:+: a := by
  constructor
  · intro h
    rw [← List.append_assoc]
    exact ⟨eq_append_of_cut? h, not_infix_of_cut? _ s a b (List.cons_ne_nil m mark) h⟩
  · rintro ⟨rfl, h⟩
    exact cut?_append_of_not_infix m mark a b hm h

/-- A mark that lacks a character does not go over that character. -/
theorem infix_append_cons_iff (mark a b : List Char) (c : Char) (hc : c ∉ mark) :
    mark <:+: a ++ c :: b ↔ mark <:+: a ∨ mark <:+: b := by
  constructor
  · rintro ⟨u, v, h⟩
    rw [List.append_assoc] at h
    rcases List.append_eq_append_iff.1 h with ⟨t, rfl, ht⟩ | ⟨t, rfl, ht⟩
    · -- the mark begins before the character, so it ends before it
      rcases List.append_eq_append_iff.1 ht with ⟨w, rfl, -⟩ | ⟨w, rfl, hw⟩
      · exact .inl ⟨u, w, List.append_assoc u mark w⟩
      · cases w with
        | nil => exact .inl ⟨u, [], by simp⟩
        | cons d w =>
          simp only [List.cons_append, List.cons.injEq] at hw
          exact absurd (by simp [hw.1]) hc
    · cases t with
      | nil =>
        cases mark with
        | nil => exact .inl List.nil_infix
        | cons d mark =>
          simp only [List.nil_append, List.cons_append, List.cons.injEq] at ht
          exact absurd (by simp [ht.1]) hc
      | cons d t =>
        simp only [List.cons_append, List.cons.injEq] at ht
        exact .inr ⟨t, v, by rw [List.append_assoc, ht.2]⟩
  · rintro (h | h)
    · exact h.trans (List.prefix_append a (c :: b)).isInfix
    · exact h.trans ((List.suffix_cons c b).trans (List.suffix_append a (c :: b))).isInfix

/-- A mark of two characters is not made by putting other characters before a text. -/
theorem infix_of_infix_append_left (a b : Char) (w s : List Char) (hw : a ∉ w)
    (h : [a, b] <:+: w ++ s) : [a, b] <:+: s := by
  induction w with
  | nil => exact h
  | cons c w ih =>
    rw [List.mem_cons, not_or] at hw
    rw [List.cons_append, List.infix_cons_iff, List.cons_prefix_cons] at h
    rcases h with ⟨hc, -⟩ | h
    · exact absurd hc hw.1
    · exact ih hw.2 h

/-- A mark of two characters is not made by putting another character behind a text. -/
theorem infix_of_infix_concat (a b c : Char) (s : List Char) (hc : b ≠ c)
    (h : [a, b] <:+: s ++ [c]) : [a, b] <:+: s := by
  rw [List.infix_concat_iff] at h
  -- a mark at the very end would end with `c`
  refine h.resolve_left fun hs => ?_
  obtain ⟨r, hr⟩ := hs
  have hlast := congrArg List.getLast? hr
  rw [List.getLast?_concat, show r ++ [a, b] = (r ++ [a]) ++ [b] by simp,
    List.getLast?_concat] at hlast
  exact hc (Option.some.inj hlast)

end Stencil.Text
