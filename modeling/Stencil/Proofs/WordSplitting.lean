import Stencil.Proofs.Trimming

/-!
# Words of a text

The words of a text are what stands between its blanks. A text that begins with a word goes on with
a trail: gaps and words by turns, and perhaps blanks behind the last word. So a text can be read
word by word, and the blanks in it are known only by where they are, not by how many or which they
are.

## Key results

- `words_append_blank`: the words of a text that is put together around a blank.
- `words_eq_nil_iff`, `words_eq_cons_iff`: a text by its words.
- `firstWord_append`, `afterFirstWord_append`: a text is cut behind its first word.
-/

namespace Stencil.Text

/-- The text is one word: no blanks, and at least one character. -/
structure IsOneWord (w : List Char) : Prop where
  ne_nil : w ≠ []
  not_isBlank : ∀ c ∈ w, isBlank c = false

instance (w : List Char) : Decidable (IsOneWord w) :=
  decidable_of_iff (w ≠ [] ∧ (w.all fun c => !isBlank c) = true)
    ⟨fun h => ⟨h.1, by simpa using h.2⟩, fun h => ⟨h.ne_nil, by simpa using h.not_isBlank⟩⟩

/-- Blanks that part two words: at least one. -/
structure IsGap (ws : List Char) : Prop where
  ne_nil : ws ≠ []
  isBlanks : IsBlanks ws

/-- What stands behind a word: these words, each of them behind a gap, and perhaps blanks. -/
inductive IsTrail : List (List Char) → List Char → Prop
  | nil (ws : List Char) (hws : IsBlanks ws) : IsTrail [] ws
  | cons (gap w : List Char) (more : List (List Char)) (t : List Char) (hgap : IsGap gap)
      (hw : IsOneWord w) (ht : IsTrail more t) : IsTrail (w :: more) (gap ++ (w ++ t))

/-! ## Cutting at blanks -/

/-- The words on either side of a blank are apart. -/
theorem words_append_blank (s t : List Char) (c : Char) (hc : isBlank c = true) :
    words (s ++ c :: t) = words s ++ words t := by
  simp only [words, splitWhere_eq_splitOnP]
  rw [List.splitOnP_append_cons s t hc, List.filter_append]

theorem words_cons_of_isBlank (c : Char) (s : List Char) (hc : isBlank c = true) :
    words (c :: s) = words s :=
  words_append_blank [] s c hc

/-- Blanks before a text are in none of its words. -/
theorem words_blanks_append (ws s : List Char) (h : IsBlanks ws) :
    words (ws ++ s) = words s := by
  induction ws with
  | nil => rfl
  | cons c ws ih =>
    obtain ⟨hc, hws⟩ := List.forall_mem_cons.1 h
    rw [List.cons_append, words_cons_of_isBlank c _ hc, ih hws]

theorem words_of_isBlanks (s : List Char) (h : IsBlanks s) : words s = [] := by
  have hwords := words_blanks_append s [] h
  rwa [List.append_nil] at hwords

theorem words_of_isOneWord (w : List Char) (h : IsOneWord w) : words w = [w] := by
  rw [words, splitWhere_eq_splitOnP, List.splitOnP_eq_singleton h.not_isBlank]
  simp [h.ne_nil]

/-- A word at the start of a text ends where a blank follows it. -/
theorem words_append (w s : List Char) (hw : IsOneWord w) (hs : ∀ c ∈ s.head?, isBlank c = true) :
    words (w ++ s) = w :: words s := by
  cases s with
  | nil => rw [List.append_nil, words_of_isOneWord w hw, words_of_isBlanks [] (by simp [IsBlanks])]
  | cons c s =>
    have hc := hs c rfl
    rw [words_append_blank w s c hc, words_of_isOneWord w hw, words_cons_of_isBlank c s hc]
    rfl

/-! ## The first word -/

theorem IsOneWord.head? {w : List Char} (h : IsOneWord w) (s : List Char) :
    ∀ c ∈ (w ++ s).head?, isBlank c = false := by
  obtain ⟨c, w, rfl⟩ := List.exists_cons_of_ne_nil h.ne_nil
  intro d hd
  cases hd
  exact h.not_isBlank c List.mem_cons_self

/-- Trimming stops at the first word. -/
theorem trimStart_append_word (ws w s : List Char) (hws : IsBlanks ws) (hw : IsOneWord w) :
    trimStart (ws ++ (w ++ s)) = w ++ s := by
  rw [trimStart_blanks_append ws _ hws, trimStart_of_head? _ (hw.head? s)]

/-- What stands behind the first word of a text is one text. -/
theorem append_word_cancel (ws ws' w t t' : List Char) (hws : IsBlanks ws) (hws' : IsBlanks ws')
    (hw : IsOneWord w) (h : ws ++ (w ++ t) = ws' ++ (w ++ t')) : t = t' := by
  have htrim := congrArg trimStart h
  rw [trimStart_append_word ws w t hws hw, trimStart_append_word ws' w t' hws' hw] at htrim
  exact List.append_cancel_left htrim

/-- A text is cut behind its first word. -/
theorem firstWord_append (w s : List Char) (hw : IsOneWord w)
    (hs : ∀ c ∈ s.head?, isBlank c = true) : firstWord (w ++ s) = w := by
  have hall : ∀ c ∈ w, (!isBlank c) = true := fun c hc => by rw [hw.not_isBlank c hc]; rfl
  rw [firstWord, takeWhile_append_of_not _ _ _ (fun c hc => by rw [hs c hc]; rfl),
    List.takeWhile_eq_self_iff.2 hall]

theorem afterFirstWord_append (w s : List Char) (hw : IsOneWord w)
    (hs : ∀ c ∈ s.head?, isBlank c = true) : afterFirstWord (w ++ s) = s := by
  have hall : ∀ c ∈ w, (!isBlank c) = true := fun c hc => by rw [hw.not_isBlank c hc]; rfl
  rw [afterFirstWord, dropWhile_append_of_not _ _ _ (fun c hc => by rw [hs c hc]; rfl),
    List.dropWhile_eq_nil_iff.2 hall, List.nil_append]

/-- What is read up to a blank is one word, if there is something. -/
theorem isOneWord_firstWord (s : List Char) (h : firstWord s ≠ []) : IsOneWord (firstWord s) := by
  refine ⟨h, fun c hc => ?_⟩
  simpa using List.mem_takeWhile_imp hc

theorem firstWord_ne_nil (c : Char) (s : List Char) (hc : isBlank c = false) :
    firstWord (c :: s) ≠ [] := by
  rw [firstWord, List.takeWhile_cons_of_pos (by simp [hc])]
  exact List.cons_ne_nil _ _

/-- The first word is read up to a blank, or to the end. -/
theorem head?_afterFirstWord (s : List Char) :
    ∀ c ∈ (afterFirstWord s).head?, isBlank c = true := by
  intro c hc
  have hnot := List.head?_dropWhile_not (fun c => !isBlank c) s
  rw [← afterFirstWord, Option.mem_def.1 hc] at hnot
  simpa using hnot

theorem firstWord_append_afterFirstWord (s : List Char) : firstWord s ++ afterFirstWord s = s :=
  List.takeWhile_append_dropWhile

/-- A text is blank, or blanks stand before its first word, and that ends at a blank. -/
theorem isBlanks_or_exists_word (s : List Char) : IsBlanks s ∨ ∃ ws w t, IsBlanks ws ∧
    IsOneWord w ∧ (∀ c ∈ t.head?, isBlank c = true) ∧ s = ws ++ (w ++ t) := by
  obtain ⟨ws, hws, hs⟩ := exists_blanks_trimStart s
  cases htrim : trimStart s with
  | nil => exact .inl ((trimStart_eq_nil_iff s).1 htrim)
  | cons c r =>
    have hc : isBlank c = false := head?_trimStart s c (by rw [htrim]; rfl)
    refine .inr ⟨ws, firstWord (c :: r), afterFirstWord (c :: r), hws,
      isOneWord_firstWord _ (firstWord_ne_nil c r hc), head?_afterFirstWord _, ?_⟩
    rw [firstWord_append_afterFirstWord, ← htrim]
    exact hs

/-- Only blanks have no words. -/
theorem words_eq_nil_iff (s : List Char) : words s = [] ↔ IsBlanks s := by
  refine ⟨fun h => ?_, words_of_isBlanks s⟩
  obtain hs | ⟨ws, w, t, hws, hw, ht, rfl⟩ := isBlanks_or_exists_word s
  · exact hs
  · rw [words_blanks_append ws _ hws, words_append w t hw ht] at h
    cases h

/-! ## Trails -/

theorem isTrail_nil_iff (t : List Char) : IsTrail [] t ↔ IsBlanks t := by
  constructor
  · intro h
    cases h with
    | nil _ hws => exact hws
  · exact .nil t

theorem isTrail_cons_iff (w t : List Char) (more : List (List Char)) : IsTrail (w :: more) t ↔
    ∃ gap u, IsGap gap ∧ IsOneWord w ∧ IsTrail more u ∧ t = gap ++ (w ++ u) := by
  constructor
  · intro h
    cases h with
    | cons gap _ _ u hgap hw hu => exact ⟨gap, u, hgap, hw, hu, rfl⟩
  · rintro ⟨gap, u, hgap, hw, hu, rfl⟩
    exact .cons gap w more u hgap hw hu

/-- A trail does not go on with the word before it. -/
theorem IsTrail.head? {more : List (List Char)} {t : List Char} (h : IsTrail more t) :
    ∀ c ∈ t.head?, isBlank c = true := by
  cases h with
  | nil _ hws => exact fun c hc => hws c (List.mem_of_mem_head? hc)
  | cons gap w more t hgap =>
    obtain ⟨c, gap, rfl⟩ := List.exists_cons_of_ne_nil hgap.ne_nil
    intro d hd
    cases hd
    exact hgap.isBlanks c List.mem_cons_self

theorem IsTrail.isOneWord {more : List (List Char)} {t : List Char} (h : IsTrail more t) :
    ∀ w ∈ more, IsOneWord w := by
  induction h with
  | nil => exact List.forall_mem_nil _
  | cons _ _ _ _ _ hw _ ih => exact List.forall_mem_cons.2 ⟨hw, ih⟩

theorem IsTrail.words {more : List (List Char)} {t : List Char} (h : IsTrail more t) :
    words t = more := by
  induction h with
  | nil ws hws => exact words_of_isBlanks ws hws
  | cons gap w more t hgap hw ht ih =>
    rw [words_blanks_append gap _ hgap.isBlanks, words_append w t hw ht.head?, ih]

/-- A text that is empty or begins with a blank is a trail of its words. -/
theorem isTrail_words (t : List Char) (h : ∀ c ∈ t.head?, isBlank c = true) :
    IsTrail (words t) t := by
  obtain ht | ⟨ws, w, r, hws, hw, hr, rfl⟩ := isBlanks_or_exists_word t
  · rw [words_of_isBlanks t ht]
    exact .nil t ht
  · have hgap : IsGap ws := by
      refine ⟨?_, hws⟩
      rintro rfl
      obtain ⟨c, w, rfl⟩ := List.exists_cons_of_ne_nil hw.ne_nil
      have hc := h c rfl
      rw [hw.not_isBlank c List.mem_cons_self] at hc
      cases hc
    -- what stands behind the word is shorter
    have hlen : r.length < (ws ++ (w ++ r)).length := by
      have := List.length_pos_iff.2 hgap.ne_nil
      simp only [List.length_append]
      omega
    rw [words_blanks_append ws _ hws, words_append w r hw hr]
    exact .cons ws w _ r hgap hw (isTrail_words r hr)
termination_by t.length

/-- The words of a text, read from its start: blanks, the first word, and a trail of the others. -/
theorem words_eq_cons_iff (s w : List Char) (more : List (List Char)) : words s = w :: more ↔
    ∃ ws t, IsBlanks ws ∧ IsOneWord w ∧ IsTrail more t ∧ s = ws ++ (w ++ t) := by
  constructor
  · intro h
    obtain hs | ⟨ws, v, t, hws, hv, ht, rfl⟩ := isBlanks_or_exists_word s
    · rw [words_of_isBlanks s hs] at h
      cases h
    · rw [words_blanks_append ws _ hws, words_append v t hv ht] at h
      cases h
      exact ⟨ws, t, hws, hv, isTrail_words t ht, rfl⟩
  · rintro ⟨ws, t, hws, hw, ht, rfl⟩
    rw [words_blanks_append ws _ hws, words_append w t hw ht.head?, ht.words]

/-- The words of a text without blanks before the first one. -/
theorem words_eq_cons_of_head? (s w : List Char) (more : List (List Char))
    (hs : ∀ c ∈ s.head?, isBlank c = false) :
    words s = w :: more ↔ ∃ t, IsOneWord w ∧ IsTrail more t ∧ s = w ++ t := by
  rw [words_eq_cons_iff]
  constructor
  · rintro ⟨ws, t, hws, hw, ht, rfl⟩
    cases ws with
    | nil => exact ⟨t, hw, ht, rfl⟩
    | cons c ws =>
      have hc := hs c rfl
      rw [hws c List.mem_cons_self] at hc
      cases hc
  · rintro ⟨t, hw, ht, rfl⟩
    exact ⟨[], t, List.forall_mem_nil _, hw, ht, rfl⟩

end Stencil.Text
