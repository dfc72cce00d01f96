import Stencil.Proofs.WordSplitting
import Stencil.Template.Outline

/-!
# Reading directives

What the content of a directive is read as, when it is put together from its parts: from a condition
or from the names of a loop. The other way round, what is read as the head of a loop has names for
its item and its collection.

## Key results

- `afterBlanks?_eq_some_iff`, `readWord?_eq_some_iff`, `readLoop?_eq_some_iff`: what the readers
  accept.
- `classify_eq`: a content by its first word.
- `classify_conditional`: the head of a conditional with any condition.
- `classify_loop`: the head of a loop with any names.
- `isName_of_classify`, `Token.isName_of_directive?`: no loop has a head without two names.
- `Token.eq_of_loopHead?`, `Token.eq_of_conditionalHead?`: what is told of a marker in an outline.
-/

namespace Stencil.Template

open Stencil.Text

namespace Directive

/-- The text is a name: word characters, at least one. -/
structure IsName (s : List Char) : Prop where
  ne_nil : s ≠ []
  isWord : ∀ c ∈ s, isWord c = true

/-- A name has no dot in it. -/
theorem IsName.not_mem_dot {s : List Char} (h : IsName s) : '.' ∉ s := by
  intro hdot
  exact absurd (h.isWord '.' hdot) (by decide)

theorem not_isBlank_of_isWord (c : Char) (h : isWord c = true) : isBlank c = false := by
  cases hc : isBlank c with
  | false => rfl
  | true => exact absurd h (by simp [isWord_of_isBlank c hc])

theorem not_isBlanks_of_isName (s : List Char) (h : IsName s) : ¬ IsBlanks s := by
  intro hs
  obtain ⟨c, r, rfl⟩ := List.exists_cons_of_ne_nil h.ne_nil
  have hc := hs c List.mem_cons_self
  rw [not_isBlank_of_isWord c (h.isWord c List.mem_cons_self)] at hc
  cases hc

/-- A name is one word. -/
theorem IsName.isOneWord {s : List Char} (h : IsName s) : IsOneWord s :=
  ⟨h.ne_nil, fun c hc => not_isBlank_of_isWord c (h.isWord c hc)⟩

/-- A name has nothing to trim at its end. -/
theorem trimEnd_of_isName (s : List Char) (h : IsName s) : trimEnd s = s := by
  have hlast := not_isBlank_of_isWord _ (h.isWord _ (List.getLast_mem h.ne_nil))
  have hend := trimEnd_append_of_not_isBlank s.dropLast (s.getLast h.ne_nil) hlast
  rwa [List.dropLast_concat_getLast] at hend

/-- Markers are written with a blank on either side of their content. -/
theorem trim_padded (s : List Char) : trim (' ' :: (s ++ [' '])) = trim s :=
  (trim_blanks_append [' '] (s ++ [' ']) (by decide)).trans
    (trim_append_blanks s [' '] (by decide))

/-! ## The readers -/

/-- Blanks are passed over, all of them, if there are any. -/
theorem afterBlanks?_eq_some_iff (s r : List Char) : afterBlanks? s = some r ↔
    ∃ gap, IsGap gap ∧ (∀ c ∈ r.head?, isBlank c = false) ∧ s = gap ++ r := by
  constructor
  · intro h
    unfold afterBlanks? at h
    split at h
    · cases h
    · next c s =>
      split at h
      · next hc =>
        cases h
        obtain ⟨ws, hws, hs⟩ := exists_blanks_trimStart s
        refine ⟨c :: ws, ⟨List.cons_ne_nil c ws, List.forall_mem_cons.2 ⟨hc, hws⟩⟩,
          head?_trimStart s, ?_⟩
        rw [List.cons_append, ← hs]
      · cases h
  · rintro ⟨gap, hgap, hr, rfl⟩
    obtain ⟨c, ws, rfl⟩ := List.exists_cons_of_ne_nil hgap.ne_nil
    obtain ⟨hc, hws⟩ := List.forall_mem_cons.1 hgap.isBlanks
    rw [List.cons_append, afterBlanks?, if_pos hc, trimStart_blanks_append ws r hws,
      trimStart_of_head? r hr]

/-- A name is read to its end. -/
theorem readWord?_eq_some_iff (s word rest : List Char) : readWord? s = some (word, rest) ↔
    IsName word ∧ (∀ c ∈ rest.head?, isWord c = false) ∧ s = word ++ rest := by
  constructor
  · intro h
    unfold readWord? at h
    split at h
    · cases h
    · next hne =>
      cases h
      refine ⟨⟨hne, fun c hc => List.mem_takeWhile_imp hc⟩, fun c hc => ?_,
        List.takeWhile_append_dropWhile.symm⟩
      have hnot := List.head?_dropWhile_not isWord s
      rw [Option.mem_def.1 hc] at hnot
      simpa using hnot
  · rintro ⟨hword, hrest, rfl⟩
    obtain ⟨c, t, hs⟩ := List.exists_cons_of_ne_nil hword.ne_nil
    rw [readWord?, takeWhile_append_of_not _ _ _ hrest, dropWhile_append_of_not _ _ _ hrest,
      List.takeWhile_eq_self_iff.2 hword.isWord, List.dropWhile_eq_nil_iff.2 hword.isWord,
      List.nil_append, hs]

theorem isOneWord_in : IsOneWord ['i', 'n'] := by decide

/-- The head of a loop is read from `for` and a trail of the words behind it, of which two are
names. -/
theorem readLoop?_eq_some_iff (s : List Char) (head : Head) : readLoop? s = some head ↔
    ∃ item collection t, IsName item ∧ IsName collection ∧
      IsTrail [item, ['i', 'n'], collection] t ∧ s = ['f', 'o', 'r'] ++ t ∧
      head = .loop (String.ofList item) (String.ofList collection) := by
  simp only [readLoop?, Option.bind_eq_bind, Option.bind_eq_some_iff, afterPrefix?_eq_some_iff,
    afterBlanks?_eq_some_iff]
  constructor
  · rintro ⟨s₁, rfl, s₂, ⟨gap₁, hgap₁, -, rfl⟩, ⟨item, s₃⟩, hfirst, s₄, ⟨gap₂, hgap₂, -, rfl⟩,
      s₅, rfl, s₆, ⟨gap₃, hgap₃, -, rfl⟩, ⟨collection, s₇⟩, hlast, hend⟩
    obtain ⟨hitem, -, rfl⟩ := (readWord?_eq_some_iff _ _ _).1 hfirst
    obtain ⟨hcollection, -, rfl⟩ := (readWord?_eq_some_iff _ _ _).1 hlast
    split at hend
    · next hempty =>
      cases hend
      have hback : IsBlanks s₇ := (trimStart_eq_nil_iff s₇).1 (List.isEmpty_iff.1 hempty)
      exact ⟨item, collection, _, hitem, hcollection,
        .cons gap₁ item _ _ hgap₁ hitem.isOneWord (.cons gap₂ _ _ _ hgap₂ isOneWord_in
          (.cons gap₃ collection _ _ hgap₃ hcollection.isOneWord (.nil s₇ hback))), rfl, rfl⟩
    · cases hend
  · rintro ⟨item, collection, t₁, hitem, hcollection, ht₁, rfl, rfl⟩
    -- a name ends where its trail begins
    have hstop : ∀ more t, IsTrail more t → ∀ c ∈ t.head?, isWord c = false :=
      fun _ _ ht c hc => isWord_of_isBlank c (ht.head? c hc)
    obtain ⟨gap₁, t₂, hgap₁, -, ht₂, rfl⟩ := (isTrail_cons_iff _ _ _).1 ht₁
    obtain ⟨gap₂, t₃, hgap₂, -, ht₃, rfl⟩ := (isTrail_cons_iff _ _ _).1 ht₂
    obtain ⟨gap₃, t₄, hgap₃, -, ht₄, rfl⟩ := (isTrail_cons_iff _ _ _).1 ht₃
    have hback : (trimStart t₄).isEmpty = true := by
      rw [List.isEmpty_iff, trimStart_eq_nil_iff]
      exact (isTrail_nil_iff t₄).1 ht₄
    refine ⟨_, rfl, _, ⟨gap₁, hgap₁, hitem.isOneWord.head? _, rfl⟩, (item, _),
      (readWord?_eq_some_iff _ _ _).2 ⟨hitem, hstop _ _ ht₂, rfl⟩, _,
      ⟨gap₂, hgap₂, isOneWord_in.head? _, rfl⟩, _, rfl, _,
      ⟨gap₃, hgap₃, hcollection.isOneWord.head? _, rfl⟩, (collection, t₄),
      (readWord?_eq_some_iff _ _ _).2 ⟨hcollection, hstop _ _ ht₄, rfl⟩, ?_⟩
    rw [if_pos hback]
    rfl

/-- Which directive a content is, is told by its first word. The head of a loop has nothing before
that. -/
theorem classify_eq (content : String) (ws w t : List Char) (hws : IsBlanks ws) (hw : IsOneWord w)
    (ht : ∀ c ∈ t.head?, isBlank c = true) (hcontent : content.toList = ws ++ (w ++ t)) :
    classify content = match String.ofList w with
      | "for" => (readLoop? content.toList).map opening
      | "if" =>
        if (trim t).isEmpty then none
        else some (opening (.conditional (String.ofList (trim t))))
      | "endfor" => some (closing .loop)
      | "endif" => some (closing .conditional)
      | _ => none := by
  have hstart : trimStart content.toList = w ++ t := by
    rw [hcontent, trimStart_append_word ws w t hws hw]
  have hfirst : firstWord (trimStart content.toList) = w := by
    rw [hstart, firstWord_append w t hw ht]
  have hrest : afterFirstWord (trimStart content.toList) = t := by
    rw [hstart, afterFirstWord_append w t hw ht]
  rw [← hfirst, ← hrest]
  rfl

/-! ## Conditionals -/

/-- The content of the marker of a conditional. -/
theorem trim_conditional (e : List Char) (he : ¬ IsBlanks e) :
    trim (' ' :: 'i' :: 'f' :: ' ' :: (e ++ [' '])) = 'i' :: 'f' :: ' ' :: trimEnd e := by
  have hpadded := trim_padded ('i' :: 'f' :: ' ' :: e)
  have hend := trimEnd_append ['i', 'f', ' '] e he
  calc trim (' ' :: 'i' :: 'f' :: ' ' :: (e ++ [' ']))
      = trim ('i' :: 'f' :: ' ' :: e) := hpadded
    _ = 'i' :: 'f' :: ' ' :: trimEnd e := by
      rw [trim, trimStart_cons_of_not_isBlank 'i' _ rfl]
      exact hend

/-- The head of a conditional has the trimmed condition. -/
theorem classify_conditional (e : List Char) (he : ¬ IsBlanks e) :
    classify (String.ofList (trim (' ' :: 'i' :: 'f' :: ' ' :: (e ++ [' '])))) =
      some (.opening (.conditional (String.ofList (trim e)))) := by
  -- the condition is trimmed at both ends, one after the other
  have hrest : trim (' ' :: trimEnd e) = trim e := by
    obtain ⟨ws, hws, hs⟩ := exists_blanks_trimEnd e
    rw [← List.singleton_append, trim_blanks_append [' '] _ (by decide)]
    conv => rhs; rw [hs]
    exact (trim_append_blanks _ ws hws).symm
  have hne : (trim e).isEmpty = false := by
    rw [List.isEmpty_eq_false_iff]
    exact fun h => he ((trim_eq_nil_iff e).1 h)
  rw [trim_conditional e he, classify_eq _ [] ['i', 'f'] (' ' :: trimEnd e) (List.forall_mem_nil _)
    (by decide) (fun c hc => by cases hc; rfl) (by simp), hrest]
  show (if (trim e).isEmpty then none else _) = _
  rw [hne]
  rfl

/-! ## Loops -/

/-- The content of the marker of a loop. -/
theorem trim_loop (item collection : List Char) (hcollection : IsName collection) :
    trim (' ' :: 'f' :: 'o' :: 'r' :: ' ' ::
        (item ++ ' ' :: 'i' :: 'n' :: ' ' :: (collection ++ [' ']))) =
      'f' :: 'o' :: 'r' :: ' ' :: (item ++ ' ' :: 'i' :: 'n' :: ' ' :: collection) := by
  have hpadded := trim_padded
    ('f' :: 'o' :: 'r' :: ' ' :: (item ++ ' ' :: 'i' :: 'n' :: ' ' :: collection))
  have hend := trimEnd_append ('f' :: 'o' :: 'r' :: ' ' :: (item ++ [' ', 'i', 'n', ' ']))
    collection (not_isBlanks_of_isName collection hcollection)
  rw [trimEnd_of_isName collection hcollection] at hend
  simp only [List.append_assoc, List.cons_append, List.nil_append] at hpadded hend
  rw [hpadded, trim, trimStart_cons_of_not_isBlank 'f' _ rfl, hend]

/-- The head of a loop that is written with single blanks. -/
theorem readLoop?_names (item collection : List Char) (hitem : IsName item)
    (hcollection : IsName collection) :
    readLoop? ('f' :: 'o' :: 'r' :: ' ' :: (item ++ ' ' :: 'i' :: 'n' :: ' ' :: collection)) =
      some (.loop (String.ofList item) (String.ofList collection)) := by
  have hgap : IsGap [' '] := ⟨by decide, by decide⟩
  have htrail : IsTrail [item, ['i', 'n'], collection]
      ([' '] ++ (item ++ ([' '] ++ (['i', 'n'] ++ ([' '] ++ (collection ++ [])))))) :=
    .cons _ _ _ _ hgap hitem.isOneWord (.cons _ _ _ _ hgap isOneWord_in
      (.cons _ _ _ _ hgap hcollection.isOneWord (.nil [] (List.forall_mem_nil _))))
  exact (readLoop?_eq_some_iff _ _).2 ⟨item, collection, _, hitem, hcollection, htrail,
    by simp, rfl⟩

/-- The head of a loop has the two names. -/
theorem classify_loop (item collection : List Char) (hitem : IsName item)
    (hcollection : IsName collection) :
    classify (String.ofList (trim (' ' :: 'f' :: 'o' :: 'r' :: ' ' ::
        (item ++ ' ' :: 'i' :: 'n' :: ' ' :: (collection ++ [' ']))))) =
      some (.opening (.loop (String.ofList item) (String.ofList collection))) := by
  have hread := readLoop?_names item collection hitem hcollection
  rw [trim_loop item collection hcollection, classify_eq _ [] ['f', 'o', 'r']
    (' ' :: (item ++ ' ' :: 'i' :: 'n' :: ' ' :: collection)) (List.forall_mem_nil _)
    (by decide) (fun c hc => by cases hc; rfl) (by simp), String.toList_ofList]
  exact congrArg (Option.map opening) hread

/-! ## Heads that are read -/

/-- Only names are taken for the item and the collection of a loop. -/
theorem isName_of_classify (content item collection : String)
    (h : classify content = some (.opening (.loop item collection))) :
    IsName item.toList ∧ IsName collection.toList := by
  unfold classify at h
  dsimp only at h
  split at h
  · obtain ⟨head, hhead, heq⟩ := Option.map_eq_some_iff.1 h
    obtain ⟨name, names, _, hname, hnames, -, -, rfl⟩ := (readLoop?_eq_some_iff _ _).1 hhead
    cases heq
    rw [String.toList_ofList, String.toList_ofList]
    exact ⟨hname, hnames⟩
  · -- a conditional has a condition
    split at h <;> cases h
  · cases h
  · cases h
  · cases h

end Directive

/-- A token that opens a loop has two names in it. -/
theorem Token.isName_of_directive? (t : Token) (item collection : String)
    (h : t.directive? = some (.opening (.loop item collection))) :
    Directive.IsName item.toList ∧ Directive.IsName collection.toList := by
  unfold Token.directive? at h
  split at h
  · exact Directive.isName_of_classify t.value item collection h
  · cases h

/-- The loop that a token opens is its head and its extent. -/
theorem Token.eq_of_loopHead? (t : Token) (head : LoopHead) (h : t.loopHead? = some head) :
    t.directive? = some (.opening (.loop head.item head.collection)) ∧
      head.start = t.offset ∧ head.stop = t.stop := by
  unfold loopHead? at h
  split at h
  · next hd =>
    cases h
    exact ⟨hd, rfl, rfl⟩
  · cases h

/-- The conditional that a token opens is its head and its extent. -/
theorem Token.eq_of_conditionalHead? (t : Token) (head : ConditionalHead)
    (h : t.conditionalHead? = some head) :
    t.directive? = some (.opening (.conditional head.expression)) ∧
      head.start = t.offset ∧ head.stop = t.stop := by
  unfold conditionalHead? at h
  split at h
  · next hd =>
    cases h
    exact ⟨hd, rfl, rfl⟩
  · cases h

end Stencil.Template
