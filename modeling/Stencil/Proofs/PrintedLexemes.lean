import Mathlib.Data.List.Basic
import Stencil.Proofs.ConditionBlanks
import Stencil.Proofs.DigitLimit
import Stencil.Proofs.QuotedTexts

/-!
# Lexemes that are read as written

The text of a condition is made of lexemes, and each of them is read back as the token it was
written for. What follows a word, a path or a numeral must not go on with it. In the text of a
condition nothing, a space or a closing parenthesis follows (`IsBoundary`), and none of them does. A
string ends with its own quote, and an operator has a space behind it.

## Key results

- `lexeme?_name`, `lexeme?_ofInt`, `lexeme?_quote`: names, integers and strings are read back.
- `Spells`: the tokens of a text, put together lexeme by lexeme from its end.
-/

namespace Stencil

open Stencil.Text

/-- The text is empty or begins with a space or a closing parenthesis. -/
def IsBoundary (rest : List Char) : Prop := ∀ c ∈ rest.head?, c = ' ' ∨ c = ')'

theorem isBoundary_nil : IsBoundary [] := by simp [IsBoundary]

theorem isBoundary_space (s : List Char) : IsBoundary (' ' :: s) := by simp [IsBoundary]

theorem isBoundary_closing (s : List Char) : IsBoundary (')' :: s) := by simp [IsBoundary]

/-- A boundary is not of a kind that neither a space nor a closing parenthesis is of. -/
theorem not_of_isBoundary (p : Char → Bool) (hspace : p ' ' = false) (hclosing : p ')' = false)
    (rest : List Char) (h : IsBoundary rest) : ∀ c ∈ rest.head?, p c = false := by
  intro c hc
  rcases h c hc with rfl | rfl
  · exact hspace
  · exact hclosing

/-- A run of characters of a kind ends before one that is not of the kind. -/
theorem span_append (p : Char → Bool) (s rest : List Char) (hs : ∀ c ∈ s, p c = true)
    (hrest : ∀ c ∈ rest.head?, p c = false) :
    (s ++ rest).takeWhile p = s ∧ (s ++ rest).dropWhile p = rest := by
  rw [List.takeWhile_append_of_pos hs, List.dropWhile_append_of_pos hs]
  cases rest with
  | nil => simp
  | cons c rest => simp [hrest c rfl]

/-! ## Numerals -/

namespace Numeral

/-- The numeral of an integer. -/
def ofInt (n : Int) : Numeral := ⟨decide (n < 0), Nat.toDigits 10 n.natAbs, none⟩

theorem toList_ofInt (n : Int) : (ofInt n).toList = (Number.integerText n).toList := by
  unfold Number.integerText toList ofInt
  by_cases hn : n < 0 <;> simp [hn]

/-- What a digit of ASCII spells. -/
theorem digit?_of_isDigit (c : Char) (h : c.isDigit = true) : digit? c = some (c.toNat - 48) := by
  have hle : c.val ≤ '9'.val := by
    simp only [Char.isDigit, Bool.and_eq_true, decide_eq_true_eq] at h
    exact h.2
  have hnat : c.toNat ≤ 57 := hle
  rw [digit?, if_pos (by omega), if_pos h]

theorem digit?_of_mem_toDigits (n : Nat) (c : Char) (h : c ∈ Nat.toDigits 10 n) :
    digit? c = some (c.toNat - 48) :=
  digit?_of_isDigit c (Nat.isDigit_of_mem_toDigits (by omega) (by omega) h)

theorem isDigit_of_mem_toDigits (n : Nat) (c : Char) (h : c ∈ Nat.toDigits 10 n) :
    isDigit c = true := by
  rw [isDigit, digit?_of_mem_toDigits n c h]
  rfl

/-- The numeral of an integer begins with its sign or with a digit. -/
theorem exists_head_ofInt (n : Int) :
    ∃ c s, (ofInt n).toList = c :: s ∧ (c = '-' ∨ isDigit c = true) := by
  by_cases hn : n < 0
  · exact ⟨'-', Nat.toDigits 10 n.natAbs, by simp [toList, ofInt, hn], .inl rfl⟩
  · cases hdigits : Nat.toDigits 10 n.natAbs with
    | nil => exact absurd hdigits Nat.toDigits_ne_nil
    | cons c s =>
      refine ⟨c, s, by simp [toList, ofInt, hn, hdigits], .inr ?_⟩
      exact isDigit_of_mem_toDigits _ c (hdigits ▸ List.mem_cons_self)

/-- The digits that are written for a number spell it. -/
theorem natOfDigits_toDigits (n : Nat) : natOfDigits (Nat.toDigits 10 n) = n := by
  have hstep : ∀ m, ∀ c ∈ Nat.toDigits 10 n,
      10 * m + (digit? c).getD 0 = 10 * m + (c.toNat - '0'.toNat) := by
    intro m c hc
    rw [digit?_of_mem_toDigits n c hc]
    rfl
  calc natOfDigits (Nat.toDigits 10 n)
      = Nat.ofDigitChars 10 (Nat.toDigits 10 n) 0 := List.foldl_ext _ _ _ hstep
    _ = n := Nat.ofDigitChars_toDigits (by omega) (by omega)

/-- The numeral of an integer within the digit limit stands for that integer. -/
theorem toNumber_ofInt (n : Int) (h : n.natAbs < 10 ^ digitLimit) :
    (ofInt n).toNumber = .ok (.whole n) := by
  have hlength : (Nat.toDigits 10 n.natAbs).length ≤ digitLimit :=
    (Nat.length_toDigits_le_iff (by omega) (by decide)).2 h
  show (if (Nat.toDigits 10 n.natAbs).length ≤ digitLimit then _ else _) = _
  rw [if_pos hlength]
  show Except.ok (Number.whole (if decide (n < 0) = true then
    -(natOfDigits (Nat.toDigits 10 n.natAbs) : Int)
    else natOfDigits (Nat.toDigits 10 n.natAbs))) = _
  rw [natOfDigits_toDigits]
  split
  · next hn =>
    have hneg := of_decide_eq_true hn
    congr 2
    omega
  · next hn =>
    have hpos := mt decide_eq_true hn
    congr 2
    omega

theorem ne_of_isDigit (c d : Char) (hc : isDigit c = true) (hd : isDigit d = false) : c ≠ d := by
  rintro rfl
  rw [hd] at hc
  cases hc

theorem isBlank_of_isDigit (c : Char) (h : isDigit c = true) : isBlank c = false := by
  rw [Bool.eq_false_iff]
  intro hblank
  rw [isDigit_of_isBlank c hblank] at h
  cases h

/-- Without a sign, the digits come first. -/
theorem read?_of_ne (c : Char) (s : List Char) (h : c ≠ '-') :
    read? (c :: s) = readUnsigned? false (c :: s) := by
  rw [read?]
  intro r hr
  exact h (List.cons.inj hr).1

/-- A run of digits before a boundary is a numeral. -/
theorem readUnsigned?_digits (negative : Bool) (digits rest : List Char) (hne : digits ≠ [])
    (hdigits : ∀ c ∈ digits, isDigit c = true) (h : IsBoundary rest) :
    readUnsigned? negative (digits ++ rest) = some (⟨negative, digits, none⟩, rest) := by
  obtain ⟨htake, hdrop⟩ := span_append isDigit digits rest hdigits
    (not_of_isBoundary isDigit (by decide) (by decide) rest h)
  -- no point follows
  have hfraction : readFraction? rest = none := by
    unfold readFraction?
    split
    · next s => rcases h '.' rfl with hdot | hdot <;> exact absurd hdot (by decide)
    · rfl
  rw [readUnsigned?, htake, hdrop]
  cases digits with
  | nil => exact absurd rfl hne
  | cons c digits =>
    dsimp only
    rw [hfraction]

/-- The numeral of an integer is read back before a boundary. -/
theorem read?_ofInt (n : Int) (rest : List Char) (h : IsBoundary rest) :
    read? ((ofInt n).toList ++ rest) = some (ofInt n, rest) := by
  have hread := fun negative => readUnsigned?_digits negative (Nat.toDigits 10 n.natAbs) rest
    Nat.toDigits_ne_nil (isDigit_of_mem_toDigits n.natAbs) h
  by_cases hn : n < 0
  · have hlist : (ofInt n).toList ++ rest = '-' :: (Nat.toDigits 10 n.natAbs ++ rest) := by
      simp [toList, ofInt, hn]
    rw [hlist, read?, hread, ofInt, decide_eq_true hn]
  · have hlist : (ofInt n).toList = Nat.toDigits 10 n.natAbs := by simp [toList, ofInt, hn]
    have hfirst : read? (Nat.toDigits 10 n.natAbs ++ rest) =
        readUnsigned? false (Nat.toDigits 10 n.natAbs ++ rest) := by
      cases hdigits : Nat.toDigits 10 n.natAbs with
      | nil => exact absurd hdigits Nat.toDigits_ne_nil
      | cons c digits =>
        have hdigit := isDigit_of_mem_toDigits n.natAbs c (hdigits ▸ List.mem_cons_self)
        exact read?_of_ne c _ (ne_of_isDigit c '-' hdigit (by decide))
    rw [hlist, hfirst, hread, ofInt, decide_eq_false hn]

end Numeral

namespace Condition

/-! ## Names -/

theorem head_readSegments (s : List Char) : ∀ c ∈ (readSegments s).1.head?, c = '.' := by
  fun_cases readSegments s <;> simp_all

theorem readSegments_of_isBoundary (rest : List Char) (h : IsBoundary rest) :
    readSegments rest = ([], rest) := by
  rw [readSegments]
  rintro c s rfl
  rcases h '.' rfl with hdot | hdot <;> exact absurd hdot (by decide)

/-- No word goes on into the segments of a path or into a boundary. -/
theorem not_isWord_readSegments (s rest : List Char) (h : IsBoundary rest) :
    ∀ c ∈ ((readSegments s).1 ++ rest).head?, isWord c = false := by
  have hdot := head_readSegments s
  cases hmore : (readSegments s).1 with
  | nil => exact not_of_isBoundary isWord (by decide) (by decide) rest h
  | cons d more =>
    rw [hmore] at hdot
    rw [hdot d rfl]
    rintro c hc
    cases hc
    decide

/-- The segments of a path are read back before a boundary. -/
theorem readSegments_append (s rest : List Char) (h : IsBoundary rest) :
    readSegments ((readSegments s).1 ++ rest) = ((readSegments s).1, rest) := by
  fun_induction readSegments s with
  | case1 c s hc segment more rest' hrec ih =>
    have hends := not_isWord_readSegments (s.dropWhile isWord) rest h
    rw [hrec] at ih hends
    obtain ⟨htake, hdrop⟩ := span_append isWord segment (more ++ rest)
      (fun _ => List.mem_takeWhile_imp) hends
    show readSegments ('.' :: c :: (segment ++ more ++ rest)) = _
    rw [List.append_assoc, readSegments, if_pos hc]
    dsimp only
    rw [htake, hdrop, ih]
  | case2 => exact readSegments_of_isBoundary rest h
  | case3 => exact readSegments_of_isBoundary rest h

/-- A path is read back before a boundary. -/
theorem readPath_append (c : Char) (s rest : List Char) (h : IsBoundary rest) :
    ∃ t, (readPath c s).1 = c :: t ∧ readPath c (t ++ rest) = (c :: t, rest) := by
  obtain ⟨htake, hdrop⟩ := span_append isWord (s.takeWhile isWord)
    ((readSegments (s.dropWhile isWord)).1 ++ rest) (fun _ => List.mem_takeWhile_imp)
    (not_isWord_readSegments _ rest h)
  refine ⟨s.takeWhile isWord ++ (readSegments (s.dropWhile isWord)).1, rfl, ?_⟩
  rw [List.append_assoc, readPath, htake, hdrop, readSegments_append _ rest h]
  rfl

theorem toNat_of_startsName (c : Char) (h : startsName c = true) :
    (65 ≤ c.toNat ∧ c.toNat ≤ 90) ∨ (97 ≤ c.toNat ∧ c.toNat ≤ 122) ∨ c.toNat = 95 := by
  have hranges : (decide ('A'.val ≤ c.val ∧ c.val ≤ 'Z'.val) ||
      (decide ('a'.val ≤ c.val) && decide (c.val ≤ 'z'.val)) || c == '_') = true := h
  simp only [Bool.or_eq_true, Bool.and_eq_true, decide_eq_true_eq, beq_iff_eq] at hranges
  rcases hranges with (⟨hlo, hhi⟩ | ⟨hlo, hhi⟩) | rfl
  · exact .inl ⟨hlo, hhi⟩
  · exact .inr (.inl ⟨hlo, hhi⟩)
  · exact .inr (.inr rfl)

theorem isBlank_of_startsName (c : Char) (h : startsName c = true) : isBlank c = false := by
  have hbound := toNat_of_startsName c h
  rw [Bool.eq_false_iff]
  intro hblank
  simp only [isBlank, Bool.or_eq_true, Bool.and_eq_true, decide_eq_true_eq, beq_iff_eq] at hblank
  omega

theorem isDigit_of_startsName (c : Char) (h : startsName c = true) : isDigit c = false := by
  have hbound := toNat_of_startsName c h
  have hdigit : c.isDigit = false := by
    rw [Bool.eq_false_iff]
    intro hd
    simp only [Char.isDigit, Bool.and_eq_true, decide_eq_true_eq] at hd
    have hhi : c.toNat ≤ 57 := hd.2
    omega
  rw [isDigit, digit?, if_pos (by omega), hdigit]
  rfl

/-- No numeral begins with a character that is neither a sign nor a digit. -/
theorem readNumber?_eq_none (c : Char) (s : List Char) (hsign : c ≠ '-')
    (hdigit : isDigit c = false) : readNumber? (c :: s) = none := by
  rw [readNumber?, Numeral.read?_of_ne c s hsign, Numeral.readUnsigned?,
    List.takeWhile_cons_of_neg (by simp [hdigit])]
  rfl

/-- The first character of a name begins neither a string nor a numeral nor an operator. -/
theorem lexeme?_of_startsName (c : Char) (s : List Char) (hc : startsName c = true) :
    lexeme? c s = readName? c s := by
  have hne : ∀ d, startsName d = false → c ≠ d := by
    rintro d hd rfl
    rw [hd] at hc
    cases hc
  have hquote : ¬ (c = '"' || c = '\'') = true := by
    simp [hne '"' (by decide), hne '\'' (by decide)]
  have hsymbol : readSymbol? (c :: s) = none := by
    unfold readSymbol?
    split
    all_goals first
      | rfl
      | next heq => exact absurd (List.cons.inj heq).1 (hne _ (by decide))
  rw [lexeme?, if_neg hquote, hsymbol,
    readNumber?_eq_none c s (hne '-' (by decide)) (isDigit_of_startsName c hc)]
  rfl

/-- A name is read back before a boundary. -/
theorem lexeme?_name (c : Char) (s rest : List Char) (hc : startsName c = true)
    (h : IsBoundary rest) :
    ∃ t width, (readPath c s).1 = c :: t ∧
      lexeme? c (t ++ rest) = some ⟨tokenOfName (String.ofList (c :: t)), width, rest⟩ := by
  obtain ⟨t, ht, hread⟩ := readPath_append c s rest h
  refine ⟨t, (c :: t).length, ht, ?_⟩
  rw [lexeme?_of_startsName c _ hc, readName?, if_pos hc, hread]

/-! ## Numerals and strings -/

/-- A numeral is a lexeme. -/
theorem lexeme?_numeral (c : Char) (s rest : List Char) (numeral : Numeral)
    (hc : c = '-' ∨ isDigit c = true) (h : Numeral.read? (c :: s) = some (numeral, rest)) :
    lexeme? c s = some ⟨.number numeral, numeral.toList.length, rest⟩ := by
  -- neither a sign nor a digit is a quote
  have hquote : ¬ (c = '"' || c = '\'') = true := by
    rw [Bool.or_eq_true, decide_eq_true_eq, decide_eq_true_eq]
    rintro (rfl | rfl) <;> exact absurd hc (by decide)
  rw [lexeme?, if_neg hquote, readNumber?, h]
  rfl

/-- The numeral of an integer is a lexeme before a boundary. -/
theorem lexeme?_ofInt (n : Int) (rest : List Char) (h : IsBoundary rest) :
    ∃ c s width, (Numeral.ofInt n).toList ++ rest = c :: s ∧ isBlank c = false ∧
      lexeme? c s = some ⟨.number (.ofInt n), width, rest⟩ := by
  obtain ⟨c, digits, hlist, hfirst⟩ := Numeral.exists_head_ofInt n
  have hread := Numeral.read?_ofInt n rest h
  rw [hlist, List.cons_append] at hread ⊢
  refine ⟨c, digits ++ rest, _, rfl, ?_, lexeme?_numeral c _ rest _ hfirst hread⟩
  rcases hfirst with rfl | hdigit
  · decide
  · exact Numeral.isBlank_of_isDigit c hdigit

/-- The character can be written in a string: it is shown as itself, or there is an escape for it
that the condition language knows. -/
def IsWritable (c : Char) : Prop :=
  isPrintable c = true ∨ c ∈ ['\'', '"', '\\', '\n', '\r', '\t']

/-- A character is written as itself, or as a backslash and the character that stands for it. -/
theorem quoteChar_cases (quote c : Char) (hquote : quote = '\'' ∨ quote = '"')
    (hc : IsWritable c) :
    (quoteChar quote c = [c] ∧ c ≠ quote ∧ c ≠ '\\') ∨
      ∃ d, quoteChar quote c = ['\\', d] ∧ escaped d = c := by
  unfold quoteChar
  by_cases hself : (c = quote || c = '\\') = true
  · -- a quote or a backslash stands for itself behind a backslash
    rw [if_pos hself]
    rw [Bool.or_eq_true, decide_eq_true_eq, decide_eq_true_eq] at hself
    refine .inr ⟨c, rfl, ?_⟩
    rcases hself with rfl | rfl
    · rcases hquote with rfl | rfl <;> decide
    · decide
  · rw [if_neg hself]
    rw [Bool.or_eq_true, decide_eq_true_eq, decide_eq_true_eq, not_or] at hself
    by_cases hfeed : c = '\n'
    · exact .inr ⟨'n', by rw [if_pos hfeed], hfeed.symm⟩
    by_cases hreturn : c = '\r'
    · exact .inr ⟨'r', by rw [if_neg hfeed, if_pos hreturn], hreturn.symm⟩
    by_cases htab : c = '\t'
    · exact .inr ⟨'t', by rw [if_neg hfeed, if_neg hreturn, if_pos htab], htab.symm⟩
    have hprintable : isPrintable c = true := by
      rcases hc with hprintable | hmem
      · exact hprintable
      · -- of the characters with escapes only the quotes are left
        simp only [List.mem_cons, List.not_mem_nil, or_false, hself.2, hfeed, hreturn, htab]
          at hmem
        rcases hmem with rfl | rfl <;> decide
    rw [if_neg hfeed, if_neg hreturn, if_neg htab, if_pos hprintable]
    exact .inl ⟨rfl, hself⟩

/-- What was escaped is the text again. -/
theorem unescape_quoteChars (quote : Char) (hquote : quote = '\'' ∨ quote = '"')
    (s : List Char) (hs : ∀ c ∈ s, IsWritable c) :
    unescape (s.flatMap (quoteChar quote)) = s := by
  induction s with
  | nil => rfl
  | cons c s ih =>
    have hrest := ih fun d hd => hs d (List.mem_cons_of_mem c hd)
    rw [List.flatMap_cons]
    rcases quoteChar_cases quote c hquote (hs c List.mem_cons_self) with
      ⟨hone, -, hback⟩ | ⟨d, htwo, hd⟩
    · rw [hone, List.singleton_append, unescape.eq_def]
      dsimp only
      rw [if_neg hback, hrest]
    · rw [htwo]
      show escaped d :: unescape (s.flatMap (quoteChar quote)) = _
      rw [hd, hrest]

/-- A quoted text is read back. -/
theorem lexeme?_quote (text : String) (rest : List Char) (hs : ∀ c ∈ text.toList, IsWritable c) :
    ∃ quote s width, (Text.quote text).toList ++ rest = quote :: s ∧ isBlank quote = false ∧
      lexeme? quote s = some ⟨.string text, width, rest⟩ := by
  have hquote := quoteFor_cases text.toList
  rw [Text.quote, String.toList_ofList]
  generalize quoteFor text.toList = quote at hquote
  have hread := readQuoted?_quoteChars quote hquote text.toList rest
  refine ⟨quote, text.toList.flatMap (quoteChar quote) ++ quote :: rest,
    (text.toList.flatMap (quoteChar quote)).length + 2, ?_, ?_, ?_⟩
  · simp
  · rcases hquote with rfl | rfl <;> decide
  · have hstring : (quote = '"' || quote = '\'') = true := by
      rcases hquote with rfl | rfl <;> decide
    rw [lexeme?, if_pos hstring, readString?, hread, Option.map_some]
    dsimp only
    rw [unescape_quoteChars quote hquote _ hs, String.ofList_toList]

/-! ## Whole texts -/

/-- The tokens of the text, without their offsets. -/
def Spells (s : List Char) (ts : List Token) : Prop := spelled (scan 0 s) = .ok ts

theorem spells_nil : Spells [] [] := by
  rw [Spells, scan]
  rfl

/-- A blank before a text is passed over. -/
theorem spells_blank (c : Char) (s : List Char) (ts : List Token) (hc : isBlank c = true)
    (h : Spells s ts) : Spells (c :: s) ts := by
  have hoffset := spelled_scan_append_blanks [] s (by decide) 1 0
  rw [List.append_nil] at hoffset
  rw [Spells, scan, if_pos hc, hoffset]
  exact h

theorem spells_space (s : List Char) (ts : List Token) (h : Spells s ts) : Spells (' ' :: s) ts :=
  spells_blank ' ' s ts (by decide) h

/-- A lexeme before a text is its first token. -/
theorem spells_lexeme (c : Char) (s rest : List Char) (token : Token) (width : Nat)
    (ts : List Token) (hc : isBlank c = false) (hl : lexeme? c s = some ⟨token, width, rest⟩)
    (h : Spells rest ts) : Spells (c :: s) (token :: ts) := by
  have hoffset := spelled_scan_append_blanks [] rest (by decide) (0 + width) 0
  rw [List.append_nil] at hoffset
  rw [Spells, spelled_scan_cons 0 c s _ (by simp [hc]) hl, hoffset, h]
  rfl

/-- An operator with a space behind it. -/
theorem spells_and (s : List Char) (ts : List Token) (h : Spells s ts) :
    Spells (' ' :: '&' :: '&' :: ' ' :: s) (.and :: ts) :=
  spells_space _ _ (spells_lexeme '&' _ _ _ 2 _ (by decide) rfl (spells_space s ts h))

theorem spells_or (s : List Char) (ts : List Token) (h : Spells s ts) :
    Spells (' ' :: '|' :: '|' :: ' ' :: s) (.or :: ts) :=
  spells_space _ _ (spells_lexeme '|' _ _ _ 2 _ (by decide) rfl (spells_space s ts h))

theorem spells_relation (r : Relation) (s : List Char) (ts : List Token) (h : Spells s ts) :
    Spells (' ' :: (r.symbol.toList ++ ' ' :: s)) (.relation r :: ts) := by
  have hs := spells_space s ts h
  apply spells_space
  cases r with
  | eq => exact spells_lexeme '=' _ _ _ 2 _ (by decide) rfl hs
  | ne => exact spells_lexeme '!' _ _ _ 2 _ (by decide) rfl hs
  | lt => exact spells_lexeme '<' _ _ _ 1 _ (by decide) rfl hs
  | le => exact spells_lexeme '<' _ _ _ 2 _ (by decide) rfl hs
  | gt => exact spells_lexeme '>' _ _ _ 1 _ (by decide) rfl hs
  | ge => exact spells_lexeme '>' _ _ _ 2 _ (by decide) rfl hs

theorem spells_opening (s : List Char) (ts : List Token) (h : Spells s ts) :
    Spells ('(' :: s) (.opening :: ts) :=
  spells_lexeme '(' s s _ 1 ts (by decide) rfl h

theorem spells_closing (s : List Char) (ts : List Token) (h : Spells s ts) :
    Spells (')' :: s) (.closing :: ts) :=
  spells_lexeme ')' s s _ 1 ts (by decide) rfl h

/-- A negation is read as one if no equals sign follows. -/
theorem spells_not (s : List Char) (ts : List Token) (hs : s.head? ≠ some '=') (h : Spells s ts) :
    Spells ('!' :: s) (.not :: ts) := by
  have hsign : ∀ r, s = '=' :: r → False := by
    rintro r rfl
    exact hs rfl
  have hsymbol : readSymbol? ('!' :: s) = some ⟨.not, 1, s⟩ := by
    rw [readSymbol?]
    · exact fun r hr => hsign ('=' :: r) hr
    · exact hsign
  have hl : lexeme? '!' s = some ⟨.not, 1, s⟩ := by
    rw [lexeme?, if_neg (by decide), readNumber?_eq_none '!' s (by decide) (by decide), hsymbol]
    rfl
  exact spells_lexeme '!' s s _ 1 ts (by decide) hl h

end Condition

end Stencil
