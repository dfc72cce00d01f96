import Stencil.Proofs.PrintedLexemes

/-!
# The forms of lexemes

How each token of the condition language is written, told without reference to the readers: a string
between two quotes, a numeral, an operator or a parenthesis, and a name of dotted segments that
begins with a letter of ASCII or the low line. `IsLexeme` is the relation of a written form to its
token. The first character tells the kind, so at most one kind of lexeme can stand at a place, and
there the readers take the longest one.

## Key results

- `isLexeme_of_lexeme?`: what is read is a lexeme.
- `exists_lexeme?_of_isLexeme`: where a lexeme stands, it or a longer one is read.
- `IsLexeme.unique`: a lexeme determines its token.
- `lexeme?_eq_some_iff`: what is read is the longest lexeme.
-/

namespace Stencil

open Stencil.Text

/-- The numeral has digits, and digits behind its point if there is one. -/
structure Numeral.IsWritten (n : Numeral) : Prop where
  whole_ne_nil : n.whole ≠ []
  whole : ∀ c ∈ n.whole, isDigit c = true
  fraction : ∀ digits, n.fraction = some digits → digits ≠ [] ∧ ∀ c ∈ digits, isDigit c = true

namespace Condition

/-- Between two quotes, the first text is written for the second one: characters stand for
themselves, and a backslash with the character behind it stands for what that is escaped for. -/
inductive Quoted (quote : Char) : List Char → List Char → Prop
  | nil : Quoted quote [] []
  | plain (c : Char) {body text : List Char} : IsPlain quote c → Quoted quote body text →
      Quoted quote (c :: body) (c :: text)
  | escape (c : Char) {body text : List Char} : Quoted quote body text →
      Quoted quote ('\\' :: c :: body) (escaped c :: text)

/-- Operators and parentheses as they are written. -/
def symbols : List (List Char × Token) := [
  (['=', '=', '='], .relation .eq), (['!', '=', '='], .relation .ne), (['=', '='], .relation .eq),
  (['!', '='], .relation .ne), (['<', '='], .relation .le), (['>', '='], .relation .ge),
  (['&', '&'], .and), (['|', '|'], .or), (['<'], .relation .lt), (['>'], .relation .gt),
  (['!'], .not), (['('], .opening), ([')'], .closing)]

/-- The segments of a path behind its first one as they are written. -/
def dotted (segments : List (List Char)) : List Char := segments.flatMap ('.' :: ·)

/-- A segment of a path behind its first one. -/
def IsSegment (s : List Char) : Prop := s ≠ [] ∧ ∀ c ∈ s, isWord c = true

/-- The text is a name: dotted segments of word characters, the first of which begins with a letter
of ASCII or the low line. -/
def IsPathText (s : List Char) : Prop :=
  ∃ c word segments, s = c :: (word ++ dotted segments) ∧ startsName c = true ∧
    (∀ d ∈ word, isWord d = true) ∧ ∀ segment ∈ segments, IsSegment segment

/-- The text is a lexeme, and stands for the token. -/
inductive IsLexeme : List Char → Token → Prop
  | string (quote : Char) {body text : List Char} : quote = '\'' ∨ quote = '"' →
      Quoted quote body text → IsLexeme (quote :: (body ++ [quote])) (.string (String.ofList text))
  | number (n : Numeral) : n.IsWritten → IsLexeme n.toList (.number n)
  | symbol {mark : List Char} {token : Token} : (mark, token) ∈ symbols → IsLexeme mark token
  | name {s : List Char} : IsPathText s → IsLexeme s (tokenOfName (String.ofList s))

/-! ## Strings -/

/-- What is read between quotes is written for what it is unescaped to. -/
theorem quoted_of_readQuoted? (quote : Char) (s body rest : List Char)
    (h : readQuoted? quote s = some (body, rest)) :
    s = body ++ quote :: rest ∧ Quoted quote body (unescape body) := by
  fun_induction readQuoted? quote s generalizing body with
  | case1 => cases h
  | case2 s =>
    cases h
    exact ⟨rfl, .nil⟩
  | case3 => cases h
  | case4 d s _ ih =>
    obtain ⟨⟨b, r⟩, hs, hb⟩ := Option.map_eq_some_iff.1 h
    cases hb
    obtain ⟨rfl, hquoted⟩ := ih b hs
    exact ⟨rfl, .escape d hquoted⟩
  | case5 c s hne hback ih =>
    obtain ⟨⟨b, r⟩, hs, hb⟩ := Option.map_eq_some_iff.1 h
    cases hb
    obtain ⟨rfl, hquoted⟩ := ih b hs
    refine ⟨rfl, ?_⟩
    rw [unescape.eq_def]
    dsimp only
    rw [if_neg hback]
    exact .plain c ⟨hne, hback⟩ hquoted

/-- What is written between quotes is read up to the closing one, and unescaped to what it is
written for. -/
theorem readQuoted?_of_quoted (quote : Char) (hquote : quote = '\'' ∨ quote = '"')
    (body text rest : List Char) (h : Quoted quote body text) :
    readQuoted? quote (body ++ quote :: rest) = some (body, rest) ∧ unescape body = text := by
  have hback : ¬ '\\' = quote := by
    rcases hquote with rfl | rfl <;> decide
  induction h with
  | nil => exact ⟨by rw [List.nil_append, readQuoted?_cons, if_pos rfl], rfl⟩
  | plain c hc _ ih =>
    constructor
    · rw [List.cons_append, readQuoted?_cons, if_neg hc.1, if_neg hc.2, ih.1]
      rfl
    · rw [unescape.eq_def]
      dsimp only
      rw [if_neg hc.2, ih.2]
  | escape c _ ih =>
    constructor
    · rw [List.cons_append, List.cons_append, readQuoted?_cons, if_neg hback, if_pos rfl]
      dsimp only
      rw [ih.1]
      rfl
    · show escaped c :: unescape _ = _
      rw [ih.2]

/-! ## Numerals -/

theorem fraction_of_readFraction? (s digits rest : List Char)
    (h : Numeral.readFraction? s = some (digits, rest)) :
    s = '.' :: digits ++ rest ∧ digits ≠ [] ∧ ∀ c ∈ digits, isDigit c = true := by
  unfold Numeral.readFraction? at h
  split at h
  · next s =>
    split at h
    · cases h
    · next hne =>
      cases h
      refine ⟨?_, fun hnil => hne hnil, fun _ => List.mem_takeWhile_imp⟩
      rw [List.cons_append, List.takeWhile_append_dropWhile]
  · cases h

theorem numeral_of_readUnsigned? (negative : Bool) (s rest : List Char) (n : Numeral)
    (h : Numeral.readUnsigned? negative s = some (n, rest)) :
    (if negative then ['-'] else []) ++ s = n.toList ++ rest ∧ n.IsWritten := by
  have hs : s = s.takeWhile isDigit ++ s.dropWhile isDigit :=
    List.takeWhile_append_dropWhile.symm
  unfold Numeral.readUnsigned? at h
  split at h
  · cases h
  · next hne =>
    have hwhole : s.takeWhile isDigit ≠ [] := fun hnil => hne hnil
    dsimp only at h
    split at h
    · next fraction rest' hfraction =>
      cases h
      obtain ⟨hrest, hfraction⟩ := fraction_of_readFraction? _ _ _ hfraction
      constructor
      · conv_lhs => rw [hs, hrest]
        simp [Numeral.toList]
      · refine ⟨hwhole, fun _ => List.mem_takeWhile_imp, fun digits hdigits => ?_⟩
        cases hdigits
        exact hfraction
    · cases h
      constructor
      · conv_lhs => rw [hs]
        simp [Numeral.toList]
      · refine ⟨hwhole, fun _ => List.mem_takeWhile_imp, fun digits hdigits => ?_⟩
        cases hdigits

theorem numeral_of_read? (s rest : List Char) (n : Numeral)
    (h : Numeral.read? s = some (n, rest)) : s = n.toList ++ rest ∧ n.IsWritten := by
  unfold Numeral.read? at h
  split at h
  · exact numeral_of_readUnsigned? true _ rest n h
  · exact numeral_of_readUnsigned? false _ rest n h

/-- Where digits and maybe a fraction stand, they or more are read. -/
theorem readUnsigned?_of_isWritten (n : Numeral) (h : n.IsWritten) (s rest : List Char)
    (hs : (if n.negative then ['-'] else []) ++ s = n.toList ++ rest) :
    ∃ m r, Numeral.readUnsigned? n.negative s = some (m, r) ∧
      ((m, r) = (n, rest) ∨ n.toList.length < m.toList.length) := by
  obtain ⟨negative, whole, fraction⟩ := n
  obtain ⟨hne, hwhole, hfraction⟩ := h
  obtain ⟨d, whole, rfl⟩ := List.exists_cons_of_ne_nil hne
  -- the run of digits at the end may go on
  have hends : rest.takeWhile isDigit = [] → rest.dropWhile isDigit = rest := fun hnil =>
    List.dropWhile_eq_self_iff.2 (List.takeWhile_eq_nil_iff.1 hnil)
  cases fraction with
  | none =>
    obtain rfl : s = d :: whole ++ rest := by simpa [Numeral.toList] using hs
    rw [Numeral.readUnsigned?, List.takeWhile_append_of_pos hwhole,
      List.dropWhile_append_of_pos hwhole]
    dsimp only [List.cons_append]
    cases Numeral.readFraction? (rest.dropWhile isDigit) with
    | some fraction => exact ⟨_, _, rfl, .inr (by simp [Numeral.toList]; omega)⟩
    | none =>
      refine ⟨_, _, rfl, ?_⟩
      cases hmore : rest.takeWhile isDigit with
      | nil => exact .inl (by rw [hends hmore, List.append_nil])
      | cons c more => exact .inr (by simp [Numeral.toList])
  | some digits =>
    obtain ⟨hnonempty, hdigits⟩ := hfraction digits rfl
    obtain rfl : s = d :: whole ++ '.' :: (digits ++ rest) := by simpa [Numeral.toList] using hs
    obtain ⟨htake, hdrop⟩ := span_append isDigit (d :: whole) ('.' :: (digits ++ rest)) hwhole
      (by rintro c ⟨⟩; decide)
    obtain ⟨e, digits, rfl⟩ := List.exists_cons_of_ne_nil hnonempty
    rw [Numeral.readUnsigned?, htake, hdrop]
    dsimp only
    rw [Numeral.readFraction?, List.takeWhile_append_of_pos hdigits,
      List.dropWhile_append_of_pos hdigits]
    refine ⟨_, _, rfl, ?_⟩
    cases hmore : rest.takeWhile isDigit with
    | nil => exact .inl (by rw [hends hmore, List.append_nil])
    | cons c more => exact .inr (by simp [Numeral.toList])

/-- A numeral begins with its sign or with a digit. -/
theorem exists_head_of_isWritten (n : Numeral) (h : n.IsWritten) : ∃ c s, n.toList = c :: s ∧
    (n.negative = true ∧ c = '-' ∨ n.negative = false ∧ isDigit c = true) := by
  obtain ⟨d, whole, hwhole⟩ := List.exists_cons_of_ne_nil h.whole_ne_nil
  cases hsign : n.negative with
  | true => exact ⟨'-', _, by rw [Numeral.toList, hsign]; rfl, .inl ⟨rfl, rfl⟩⟩
  | false =>
    refine ⟨d, _, by rw [Numeral.toList, hsign, hwhole]; rfl, .inr ⟨rfl, h.whole d ?_⟩⟩
    rw [hwhole]
    exact List.mem_cons_self

/-- Where a numeral stands, it or a longer one is read. -/
theorem read?_of_isWritten (n : Numeral) (h : n.IsWritten) (rest : List Char) :
    ∃ m r, Numeral.read? (n.toList ++ rest) = some (m, r) ∧
      ((m, r) = (n, rest) ∨ n.toList.length < m.toList.length) := by
  have hread := readUnsigned?_of_isWritten n h
  obtain ⟨c, s, hs, ⟨hsign, rfl⟩ | ⟨hsign, hc⟩⟩ := exists_head_of_isWritten n h
  · have hread := hread (s ++ rest) rest (by rw [hsign, hs]; rfl)
    rw [hsign] at hread
    rw [hs] at hread ⊢
    exact hread
  · have hread := hread (n.toList ++ rest) rest (by rw [hsign]; rfl)
    rw [hsign] at hread
    rw [hs] at hread ⊢
    rw [List.cons_append, Numeral.read?_of_ne c _ (Numeral.ne_of_isDigit c '-' hc (by decide))]
    exact hread

/-! ## Operators and parentheses -/

/-- What is read is an operator or a parenthesis. -/
theorem symbol_of_readSymbol? (s : List Char) (l : Lexeme) (h : readSymbol? s = some l) :
    ∃ mark, s = mark ++ l.rest ∧ mark.length = l.width ∧ (mark, l.token) ∈ symbols := by
  refine ⟨s.take l.width, ?_⟩
  unfold readSymbol? at h
  split at h <;> cases h
  all_goals exact ⟨rfl, rfl, by simp [symbols]⟩

/-- No operator and no parenthesis begins with a blank, or as another lexeme does. -/
theorem exists_head_of_mem_symbols (mark : List Char) (token : Token)
    (h : (mark, token) ∈ symbols) :
    ∃ c s, mark = c :: s ∧ isBlank c = false ∧ isDigit c = false ∧ c ≠ '-' ∧
      ¬ (c = '"' || c = '\'') = true := by
  simp only [symbols, List.mem_cons, Prod.mk.injEq, List.not_mem_nil, or_false] at h
  rcases h with ⟨rfl, -⟩ | ⟨rfl, -⟩ | ⟨rfl, -⟩ | ⟨rfl, -⟩ | ⟨rfl, -⟩ | ⟨rfl, -⟩ | ⟨rfl, -⟩ |
    ⟨rfl, -⟩ | ⟨rfl, -⟩ | ⟨rfl, -⟩ | ⟨rfl, -⟩ | ⟨rfl, -⟩ | ⟨rfl, -⟩
  all_goals exact ⟨_, _, rfl, by decide⟩

/-- Where an operator or a parenthesis stands, it or a longer one is read. -/
theorem readSymbol?_of_mem_symbols (mark : List Char) (token : Token)
    (h : (mark, token) ∈ symbols) (rest : List Char) :
    ∃ l, readSymbol? (mark ++ rest) = some l ∧
      (l = ⟨token, mark.length, rest⟩ ∨ mark.length < l.width) := by
  -- an operator with which another one begins goes on with an equals sign
  have hcontinued : ((∀ r, rest ≠ '=' :: r) →
        readSymbol? (mark ++ rest) = some ⟨token, mark.length, rest⟩) →
      (∀ r, ∃ l, readSymbol? (mark ++ '=' :: r) = some l ∧ mark.length < l.width) →
      ∃ l, readSymbol? (mark ++ rest) = some l ∧
        (l = ⟨token, mark.length, rest⟩ ∨ mark.length < l.width) := by
    intro hends hgoes
    by_cases heq : ∃ r, rest = '=' :: r
    · obtain ⟨r, rfl⟩ := heq
      obtain ⟨l, hl, hlt⟩ := hgoes r
      exact ⟨l, hl, .inr hlt⟩
    · exact ⟨_, hends fun r hr => heq ⟨r, hr⟩, .inl rfl⟩
  simp only [symbols, List.mem_cons, Prod.mk.injEq, List.not_mem_nil, or_false] at h
  rcases h with ⟨rfl, rfl⟩ | ⟨rfl, rfl⟩ | ⟨rfl, rfl⟩ | ⟨rfl, rfl⟩ | ⟨rfl, rfl⟩ | ⟨rfl, rfl⟩ |
    ⟨rfl, rfl⟩ | ⟨rfl, rfl⟩ | ⟨rfl, rfl⟩ | ⟨rfl, rfl⟩ | ⟨rfl, rfl⟩ | ⟨rfl, rfl⟩ | ⟨rfl, rfl⟩
  · exact ⟨_, rfl, .inl rfl⟩
  · exact ⟨_, rfl, .inl rfl⟩
  · exact hcontinued (fun _ => by simp [readSymbol?]) fun r => ⟨_, rfl, Nat.lt_succ_self _⟩
  · exact hcontinued (fun _ => by simp [readSymbol?]) fun r => ⟨_, rfl, Nat.lt_succ_self _⟩
  · exact ⟨_, rfl, .inl rfl⟩
  · exact ⟨_, rfl, .inl rfl⟩
  · exact ⟨_, rfl, .inl rfl⟩
  · exact ⟨_, rfl, .inl rfl⟩
  · exact hcontinued (fun _ => by simp [readSymbol?]) fun r => ⟨_, rfl, Nat.lt_succ_self _⟩
  · exact hcontinued (fun _ => by simp [readSymbol?]) fun r => ⟨_, rfl, Nat.lt_succ_self _⟩
  · refine hcontinued (fun hne => by simp [readSymbol?, hne]) fun r => ?_
    -- a second equals sign makes it longer still
    by_cases heq : ∃ s, r = '=' :: s
    · obtain ⟨s, rfl⟩ := heq
      exact ⟨⟨.relation .ne, 3, s⟩, rfl, by simp⟩
    · exact ⟨⟨.relation .ne, 2, r⟩, by simp [readSymbol?, not_exists.1 heq], by simp⟩
  · exact ⟨_, rfl, .inl rfl⟩
  · exact ⟨_, rfl, .inl rfl⟩

/-! ## Names -/

/-- What is read behind a segment is more segments. -/
theorem dotted_of_readSegments (s : List Char) :
    s = (readSegments s).1 ++ (readSegments s).2 ∧
      ∃ segments, (readSegments s).1 = dotted segments ∧
        ∀ segment ∈ segments, IsSegment segment := by
  fun_induction readSegments s with
  | case1 c s hc segment more rest hrest ih =>
    rw [hrest] at ih
    obtain ⟨hs, segments, rfl, hsegments⟩ := ih
    constructor
    · show '.' :: c :: s = '.' :: c :: segment ++ dotted segments ++ rest
      rw [List.append_assoc, ← hs]
      simp only [List.cons_append, segment, List.takeWhile_append_dropWhile]
    · refine ⟨(c :: segment) :: segments, rfl, fun t ht => ?_⟩
      rcases List.mem_cons.1 ht with rfl | ht
      · refine ⟨List.cons_ne_nil c segment, fun d hd => ?_⟩
        rcases List.mem_cons.1 hd with rfl | hd
        · exact hc
        · exact List.mem_takeWhile_imp hd
      · exact hsegments t ht
  | case2 c s hc => exact ⟨rfl, [], rfl, List.forall_mem_nil _⟩
  | case3 s h => exact ⟨rfl, [], rfl, List.forall_mem_nil _⟩

/-- What is read is a name. -/
theorem isPathText_readPath (c : Char) (s : List Char) (hc : startsName c = true) :
    c :: s = (readPath c s).1 ++ (readPath c s).2 ∧ IsPathText (readPath c s).1 := by
  obtain ⟨hs, segments, hmore, hsegments⟩ := dotted_of_readSegments (s.dropWhile isWord)
  constructor
  · show c :: s = c :: List.takeWhile isWord s ++ (readSegments (s.dropWhile isWord)).1 ++
      (readSegments (s.dropWhile isWord)).2
    rw [List.cons_append, List.cons_append, List.append_assoc, ← hs,
      List.takeWhile_append_dropWhile]
  · refine ⟨c, s.takeWhile isWord, segments, ?_, hc, fun _ => List.mem_takeWhile_imp, hsegments⟩
    show c :: List.takeWhile isWord s ++ _ = _
    rw [hmore]
    rfl

/-- A path goes on behind a dot as one that begins there. -/
theorem readPath_dot (c d : Char) (word s : List Char) (hword : ∀ e ∈ word, isWord e = true)
    (hd : isWord d = true) :
    readPath c (word ++ '.' :: d :: s) =
      (c :: word ++ '.' :: (readPath d s).1, (readPath d s).2) := by
  obtain ⟨htake, hdrop⟩ := span_append isWord word ('.' :: d :: s) hword (by rintro e ⟨⟩; decide)
  rw [readPath, htake, hdrop, readSegments, if_pos hd]
  rfl

/-- Where a word stands before segments, they or more are read. -/
theorem prefix_readPath (segments : List (List Char)) (c : Char) (word rest : List Char)
    (hword : ∀ d ∈ word, isWord d = true) (hsegments : ∀ segment ∈ segments, IsSegment segment) :
    c :: (word ++ dotted segments) <+: (readPath c (word ++ (dotted segments ++ rest))).1 := by
  induction segments generalizing c word with
  | nil =>
    show _ <+: c :: List.takeWhile isWord (word ++ rest) ++ _
    rw [List.takeWhile_append_of_pos hword]
    simp [dotted]
  | cons segment segments ih =>
    -- the segment is the word before the other segments
    obtain ⟨hne, hsegment⟩ := hsegments segment List.mem_cons_self
    obtain ⟨d, segment, rfl⟩ := List.exists_cons_of_ne_nil hne
    have hrest := ih d segment (fun e he => hsegment e (List.mem_cons_of_mem d he))
      fun s hs => hsegments s (List.mem_cons_of_mem _ hs)
    have hdotted : dotted ((d :: segment) :: segments) = '.' :: d :: (segment ++ dotted segments) :=
      rfl
    rw [hdotted, List.cons_append, List.cons_append, List.append_assoc,
      readPath_dot c d word _ hword (hsegment d List.mem_cons_self), List.cons_append,
      List.cons_prefix_cons]
    refine ⟨rfl, (List.prefix_append_right_inj word).2 ?_⟩
    exact List.cons_prefix_cons.2 ⟨rfl, hrest⟩

/-- Where a name stands, it or a longer one is read. -/
theorem readName?_of_isPathText (name : List Char) (h : IsPathText name) (rest : List Char) :
    ∃ c s l, name = c :: s ∧ startsName c = true ∧ readName? c (s ++ rest) = some l ∧
      (l = ⟨tokenOfName (String.ofList name), name.length, rest⟩ ∨ name.length < l.width) := by
  obtain ⟨c, word, segments, rfl, hc, hword, hsegments⟩ := h
  have hstarts := prefix_readPath segments c word rest hword hsegments
  rw [← List.append_assoc] at hstarts
  obtain ⟨hs, -⟩ := isPathText_readPath c (word ++ dotted segments ++ rest) hc
  refine ⟨c, _, _, rfl, hc, by rw [readName?, if_pos hc], ?_⟩
  rcases Nat.lt_or_eq_of_le hstarts.length_le with hlt | heq
  · exact .inr hlt
  · -- nothing more was read, so all that was behind the name is left
    have hname := hstarts.eq_of_length heq
    rw [← hname, ← List.cons_append] at hs
    rw [← hname, ← List.append_cancel_left hs]
    exact .inl rfl

/-! ## All lexemes -/

/-- What is read is a lexeme. -/
theorem isLexeme_of_lexeme? (c : Char) (s : List Char) (l : Lexeme) (h : lexeme? c s = some l) :
    ∃ u, c :: s = u ++ l.rest ∧ u.length = l.width ∧ IsLexeme u l.token := by
  unfold lexeme? at h
  split at h
  · next hquote =>
    obtain ⟨⟨body, rest⟩, hbody, rfl⟩ := Option.map_eq_some_iff.1 h
    obtain ⟨rfl, hquoted⟩ := quoted_of_readQuoted? c s body rest hbody
    refine ⟨c :: (body ++ [c]), by simp, by simp, .string c ?_ hquoted⟩
    simpa [or_comm] using hquote
  · rcases Option.or_eq_some_iff.1 h with h | ⟨-, h⟩
    · obtain ⟨⟨n, rest⟩, hread, rfl⟩ := Option.map_eq_some_iff.1 h
      obtain ⟨hs, hn⟩ := numeral_of_read? _ rest n hread
      exact ⟨n.toList, hs, rfl, .number n hn⟩
    rcases Option.or_eq_some_iff.1 h with h | ⟨-, h⟩
    · obtain ⟨mark, hs, hwidth, hmark⟩ := symbol_of_readSymbol? _ l h
      exact ⟨mark, hs, hwidth, .symbol hmark⟩
    · unfold readName? at h
      split at h
      · next hc =>
        cases h
        obtain ⟨hs, hname⟩ := isPathText_readPath c s hc
        exact ⟨_, hs, rfl, .name hname⟩
      · cases h

/-- Where a lexeme stands, it or a longer one is read. -/
theorem exists_lexeme?_of_isLexeme (u : List Char) (token : Token) (h : IsLexeme u token)
    (rest : List Char) :
    ∃ c s l, u ++ rest = c :: s ∧ isBlank c = false ∧ lexeme? c s = some l ∧
      (l = ⟨token, u.length, rest⟩ ∨ u.length < l.width) := by
  cases h with
  | string quote hquote hquoted =>
    next body text =>
    obtain ⟨hread, hunescape⟩ := readQuoted?_of_quoted quote hquote body text rest hquoted
    refine ⟨quote, body ++ quote :: rest, _, by simp, ?_, ?_, .inl rfl⟩
    · rcases hquote with rfl | rfl <;> decide
    · have hstring : (quote = '"' || quote = '\'') = true := by simpa [or_comm] using hquote
      rw [lexeme?, if_pos hstring, readString?, hread, Option.map_some]
      simp [hunescape]
  | number n hn =>
    obtain ⟨c, s, hs, hc⟩ := exists_head_of_isWritten n hn
    obtain ⟨m, r, hread, hlong⟩ := read?_of_isWritten n hn rest
    have hfirst : c = '-' ∨ isDigit c = true := hc.imp And.right And.right
    rw [hs, List.cons_append] at hread
    refine ⟨c, s ++ rest, _, by rw [hs, List.cons_append], ?_,
      lexeme?_numeral c _ r m hfirst hread, hlong.imp_left ?_⟩
    · rcases hfirst with rfl | hdigit
      · decide
      · exact Numeral.isBlank_of_isDigit c hdigit
    · rintro ⟨⟩
      rfl
  | symbol hmark =>
    obtain ⟨c, s, rfl, hblank, hdigit, hsign, hquote⟩ := exists_head_of_mem_symbols u token hmark
    obtain ⟨l, hread, hlong⟩ := readSymbol?_of_mem_symbols (c :: s) token hmark rest
    refine ⟨c, s ++ rest, l, rfl, hblank, ?_, hlong⟩
    rw [lexeme?, if_neg hquote, readNumber?_eq_none c _ hsign hdigit]
    exact Option.or_eq_some_iff.2 (.inr ⟨rfl, Option.or_eq_some_iff.2 (.inl hread)⟩)
  | name hname =>
    obtain ⟨c, s, l, rfl, hc, hread, hlong⟩ := readName?_of_isPathText u hname rest
    exact ⟨c, s ++ rest, l, rfl, isBlank_of_startsName c hc,
      (lexeme?_of_startsName c _ hc).trans hread, hlong⟩

/-- A lexeme determines its token. -/
theorem IsLexeme.unique {u : List Char} {t t' : Token} (h : IsLexeme u t) (h' : IsLexeme u t') :
    t = t' := by
  -- alone, the lexeme is read as both
  obtain ⟨c, s, l, hs, -, hl, hlong⟩ := exists_lexeme?_of_isLexeme u t h []
  obtain ⟨c', s', l', hs', -, hl', hlong'⟩ := exists_lexeme?_of_isLexeme u t' h' []
  obtain ⟨rfl, rfl⟩ := List.cons.inj (hs.symm.trans hs')
  obtain rfl := Option.some.inj (hl.symm.trans hl')
  obtain ⟨v, hv, hwidth, -⟩ := isLexeme_of_lexeme? c s l hl
  have hlength := congrArg List.length (hs.trans hv)
  simp only [List.length_append, List.length_nil] at hlength
  have ht : l = ⟨t, u.length, []⟩ := hlong.resolve_right (by omega)
  have ht' : l = ⟨t', u.length, []⟩ := hlong'.resolve_right (by omega)
  exact (Lexeme.mk.inj (ht.symm.trans ht')).1

/-- What is read is the longest lexeme that stands there. -/
theorem lexeme?_eq_some_iff (c : Char) (s : List Char) (l : Lexeme) :
    lexeme? c s = some l ↔ ∃ u, c :: s = u ++ l.rest ∧ u.length = l.width ∧ IsLexeme u l.token ∧
      ∀ v t, IsLexeme v t → v <+: c :: s → v.length ≤ u.length := by
  constructor
  · intro h
    obtain ⟨u, hs, hwidth, hu⟩ := isLexeme_of_lexeme? c s l h
    refine ⟨u, hs, hwidth, hu, fun v t hv hstarts => ?_⟩
    obtain ⟨rest, hrest⟩ := hstarts
    obtain ⟨d, r, l', hs', -, hl', hlong⟩ := exists_lexeme?_of_isLexeme v t hv rest
    obtain ⟨rfl, rfl⟩ := List.cons.inj (hrest.symm.trans hs')
    obtain rfl := Option.some.inj (h.symm.trans hl')
    rcases hlong with rfl | hlt
    · exact hwidth.ge
    · omega
  · rintro ⟨u, hs, hwidth, hu, hlongest⟩
    obtain ⟨d, r, l', hs', -, hl', hlong⟩ := exists_lexeme?_of_isLexeme u l.token hu l.rest
    obtain ⟨rfl, rfl⟩ := List.cons.inj (hs.trans hs')
    rw [hl']
    rcases hlong with rfl | hlt
    · rw [hwidth]
    · -- what would be read instead is a lexeme as well
      obtain ⟨v, hv, hwidth', hlexeme⟩ := isLexeme_of_lexeme? c s l' hl'
      have hle := hlongest v l'.token hlexeme ⟨l'.rest, hv.symm⟩
      omega

/-- Nothing is read where no lexeme stands. -/
theorem lexeme?_eq_none_iff (c : Char) (s : List Char) :
    lexeme? c s = none ↔ ∀ u t, IsLexeme u t → ¬ u <+: c :: s := by
  constructor
  · rintro hnone u t hu ⟨rest, hrest⟩
    obtain ⟨d, r, l, hs, -, hl, -⟩ := exists_lexeme?_of_isLexeme u t hu rest
    obtain ⟨rfl, rfl⟩ := List.cons.inj (hrest.symm.trans hs)
    cases hnone.symm.trans hl
  · intro h
    cases hl : lexeme? c s with
    | none => rfl
    | some l =>
      obtain ⟨u, hs, -, hu⟩ := isLexeme_of_lexeme? c s l hl
      exact absurd ⟨l.rest, hs.symm⟩ (h u l.token hu)

end Condition

end Stencil
