import Stencil.Proofs.ConditionParserCorrect
import Stencil.Proofs.PrintedLexemes

/-!
# Conditions within the digit limit

A condition is short if no numeral in it has too many digits and no string in it spells a numeral
that has. It can be told from the tokens of the condition. The constants of the expression that is
read are among the tokens, so they are short values; and a text of no more characters than the digit
limit is always short, since every numeral and every string is read from characters of its own.

The other way round, a run of more digits than the limit is a condition that cannot be read.

## Key results

- `Derives.literals`: each constant in a condition is one of its tokens.
- `isShort_of_mem_literals`: the constants of a short condition are short.
- `size_of_scan`, `isShort_of_length_le`: a text within the digit limit is short.
- `parse_digits`: a run of too many digits is not read.
-/

namespace Stencil.Condition

/-! ## The constants of a condition -/

/-- The constants in a condition, in order. -/
def Expr.literals : Expr → List Literal
  | .literal l => [l]
  | .path _ => []
  | .compare _ left right | .both left right | .either left right =>
    left.literals ++ right.literals
  | .negation e | .group e => e.literals

/-- Each constant in a condition is one of its tokens. -/
theorem Derives.literals {rank : Rank} {ts : List Token} {e : Expr} (h : Derives rank ts e)
    (l : Literal) (hl : l ∈ e.literals) : ∃ t ∈ ts, operand? t = some (.ok (.literal l)) := by
  induction h with
  | conjunction _ ih | equality _ ih | relational _ ih | unary _ ih | primary _ ih => exact ih hl
  | or _ _ ihl ihr | and _ _ ihl ihr | equate _ _ _ _ ihl ihr | order _ _ _ _ ihl ihr =>
    -- the tokens of both operands are tokens of the whole
    rcases List.mem_append.1 hl with hl | hl
    · obtain ⟨t, ht, htoken⟩ := ihl hl
      exact ⟨t, by simp [ht], htoken⟩
    · obtain ⟨t, ht, htoken⟩ := ihr hl
      exact ⟨t, by simp [ht], htoken⟩
  | not _ ih =>
    obtain ⟨t, ht, htoken⟩ := ih hl
    exact ⟨t, by simp [ht], htoken⟩
  | group _ ih =>
    obtain ⟨t, ht, htoken⟩ := ih hl
    exact ⟨t, by simp [ht], htoken⟩
  | string s =>
    cases List.mem_singleton.1 hl
    exact ⟨_, List.mem_singleton_self _, rfl⟩
  | number numeral n hn =>
    cases List.mem_singleton.1 hl
    exact ⟨_, List.mem_singleton_self _, by rw [operand?, hn]; rfl⟩
  | keyword word =>
    cases List.mem_singleton.1 hl
    exact ⟨_, List.mem_singleton_self _, by cases word <;> rfl⟩
  | path name => cases hl

/-- No numeral in the text has too many digits, and no string in it spells one that has. -/
def IsShort (text : String) : Prop :=
  ∀ ts, tokenize text = .ok ts → ∀ t ∈ ts.tokens,
    t.token.IsShort ∧ ∀ s, t.token = .string s → Value.spellsShort s = true

/-- A token stands for a short constant if it is no string that spells a long one. -/
theorem isShort_of_operand? (t : Token) (l : Literal) (h : operand? t = some (.ok (.literal l)))
    (hstring : ∀ s, t = .string s → Value.spellsShort s = true) : l.value.isShort = true := by
  cases t with
  | string s =>
    cases h
    exact hstring s rfl
  | number numeral =>
    cases hn : numeral.toNumber with
    | error e =>
      rw [operand?, hn] at h
      cases h
    | ok n =>
      rw [operand?, hn] at h
      cases h
      exact isShort_toNumber numeral n hn
  | keyword word =>
    cases word <;> cases h <;> rfl
  | _ => cases h

/-- The constants of a short text are short. -/
theorem isShort_of_mem_literals (text : String) (htext : IsShort text) (e : Expr)
    (hparse : parse text = .ok e) : ∀ l ∈ e.literals, l.value.isShort = true := by
  intro l hl
  obtain ⟨ts, hts, hderives, -⟩ := (parse_eq_ok_iff_derives text e).1 hparse
  obtain ⟨token, htoken, hoperand⟩ := hderives.literals l hl
  obtain ⟨t, ht, rfl⟩ := List.mem_map.1 htoken
  exact isShort_of_operand? t.token l hoperand (htext ts hts t ht).2

/-! ## Short texts -/

/-- The length of what a string or a numeral holds. -/
def Token.size : Token → Nat
  | .string s => s.length
  | .number numeral => numeral.whole.length
  | _ => 0

theorem length_whole_of_readUnsigned? (negative : Bool) (s rest : List Char) (n : Numeral)
    (h : Numeral.readUnsigned? negative s = some (n, rest)) : n.whole.length ≤ s.length := by
  have hle : (s.takeWhile Text.isDigit).length ≤ s.length :=
    (List.takeWhile_prefix Text.isDigit).length_le
  unfold Numeral.readUnsigned? at h
  split at h
  · cases h
  · dsimp only at h
    split at h <;> cases h <;> exact hle

/-- A numeral has no more digits than its text. -/
theorem length_whole_of_read? (s rest : List Char) (n : Numeral)
    (h : Numeral.read? s = some (n, rest)) : n.whole.length ≤ s.length := by
  unfold Numeral.read? at h
  split at h
  · have := length_whole_of_readUnsigned? _ _ _ _ h
    rw [List.length_cons]
    omega
  · exact length_whole_of_readUnsigned? _ _ _ _ h

/-- A string is no longer than the text between its quotes. -/
theorem length_unescape_le (s : List Char) : (unescape s).length ≤ s.length := by
  fun_induction unescape s with
  | case1 => simp
  | case2 => simp
  | case3 d s ih => simp only [List.length_cons]; omega
  | case4 c s _ ih => simp only [List.length_cons]; omega

theorem length_body_of_readQuoted? (quote : Char) (s body rest : List Char)
    (h : readQuoted? quote s = some (body, rest)) : body.length ≤ s.length := by
  fun_induction readQuoted? quote s generalizing body with
  | case1 => cases h
  | case2 =>
    cases h
    exact Nat.zero_le _
  | case3 => cases h
  | case4 d s _ ih =>
    -- an escape takes two characters
    obtain ⟨⟨b, r⟩, hs, hb⟩ := Option.map_eq_some_iff.1 h
    cases hb
    have := ih b hs
    simp only [List.length_cons]
    omega
  | case5 c s _ _ ih =>
    obtain ⟨⟨b, r⟩, hs, hb⟩ := Option.map_eq_some_iff.1 h
    cases hb
    have := ih b hs
    simp only [List.length_cons]
    omega

theorem size_tokenOfName (name : String) : (tokenOfName name).size = 0 := by
  unfold tokenOfName
  split
  · rfl
  · split
    · rfl
    · split
      · rfl
      · cases Keyword.ofWord? name <;> rfl

/-- A lexeme holds no more than the text it is read from. -/
theorem size_of_lexeme? (c : Char) (s : List Char) (l : Lexeme) (h : lexeme? c s = some l) :
    l.token.size ≤ (c :: s).length := by
  unfold lexeme? at h
  split at h
  · obtain ⟨⟨body, rest⟩, hbody, rfl⟩ := Option.map_eq_some_iff.1 h
    have hle := length_body_of_readQuoted? c s body rest hbody
    have hunescape := length_unescape_le body
    simp only [Token.size, String.length_ofList, List.length_cons]
    omega
  · rcases Option.or_eq_some_iff.1 h with h | ⟨-, h⟩
    · obtain ⟨⟨numeral, rest⟩, hnumeral, rfl⟩ := Option.map_eq_some_iff.1 h
      exact length_whole_of_read? (c :: s) rest numeral hnumeral
    -- the other tokens hold neither a numeral nor a string
    rcases Option.or_eq_some_iff.1 h with h | ⟨-, h⟩
    · unfold readSymbol? at h
      split at h <;> cases h <;> exact Nat.zero_le _
    · unfold readName? at h
      split at h
      · cases h
        rw [size_tokenOfName]
        exact Nat.zero_le _
      · cases h

/-- No token holds more than the text. -/
theorem size_of_scan (offset : Nat) (s : List Char) (ts : Tokens) (h : scan offset s = .ok ts) :
    ∀ t ∈ ts.tokens, t.token.size ≤ s.length := by
  fun_induction scan offset s generalizing ts with
  | case1 offset =>
    cases h
    simp
  | case2 offset c s _ ih =>
    intro t ht
    have := ih ts h t ht
    rw [List.length_cons]
    omega
  | case3 => cases h
  | case4 offset c s _ l hl _ us hus ih =>
    cases h
    intro t ht
    rcases List.mem_cons.1 ht with rfl | ht
    · exact size_of_lexeme? c s l hl
    · -- what follows the lexeme is shorter
      have := ih us hus t ht
      have := length_of_lexeme? hl
      omega
  | case5 => cases h

/-- A text spells no more digits than it has characters. -/
theorem spellsShort_of_length_le (s : String) (h : s.length ≤ digitLimit) :
    Value.spellsShort s = true := by
  have htrim : (Text.trim s.toList).length ≤ s.length := by
    have hend := Text.length_trimEnd_le (Text.trimStart s.toList)
    have hstart := Text.length_trimStart_le s.toList
    exact Nat.le_trans hend hstart
  unfold Value.spellsShort Value.spelledNumber?
  cases hread : Numeral.read? (Text.trim s.toList) with
  | none => rfl
  | some result =>
    obtain ⟨numeral, rest⟩ := result
    have hwhole := length_whole_of_read? _ rest numeral hread
    have hnumber : ∃ n, numeral.toNumber = .ok n := by
      unfold Numeral.toNumber
      cases numeral.fraction with
      | some digits => exact ⟨_, rfl⟩
      | none => exact ⟨_, if_pos (by omega)⟩
    obtain ⟨n, hn⟩ := hnumber
    cases rest with
    | nil =>
      dsimp only
      rw [hn]
      rfl
    | cons c rest => rfl

/-- A condition within the digit limit is short. -/
theorem isShort_of_length_le (text : String) (h : text.length ≤ digitLimit) : IsShort text := by
  intro ts hts t ht
  have hsize := Nat.le_trans (size_of_scan 0 text.toList ts hts t ht) h
  constructor
  · intro numeral hnumeral _
    rw [hnumeral] at hsize
    exact hsize
  · intro s hs
    rw [hs] at hsize
    exact spellsShort_of_length_le s hsize

/-! ## Beyond the limit -/

/-- A run of digits is one numeral. -/
theorem lexeme?_digits (c : Char) (s : List Char) (h : ∀ d ∈ c :: s, Text.isDigit d = true) :
    lexeme? c s = some ⟨.number ⟨false, c :: s, none⟩, s.length + 1, []⟩ := by
  have hc := h c List.mem_cons_self
  have hread : Numeral.read? (c :: s) = some (⟨false, c :: s, none⟩, []) := by
    have hdigits := Numeral.readUnsigned?_digits false (c :: s) [] (List.cons_ne_nil c s) h
      isBoundary_nil
    rw [List.append_nil] at hdigits
    rw [Numeral.read?_of_ne c s (Numeral.ne_of_isDigit c '-' hc (by decide)), hdigits]
  rw [lexeme?_numeral c s [] _ (.inr hc) hread]
  simp [Numeral.toList]

/-- A condition that is a run of too many digits cannot be read. -/
theorem parse_digits (digits : List Char) (h : ∀ d ∈ digits, Text.isDigit d = true)
    (hlong : digitLimit < digits.length) : parse (String.ofList digits) = .error .overlong := by
  cases digits with
  | nil => cases hlong
  | cons c s =>
    have hblank : ¬ Text.isBlank c = true := by
      rw [Numeral.isBlank_of_isDigit c (h c List.mem_cons_self)]
      decide
    have hspelled : spelled (tokenize (String.ofList (c :: s))) =
        .ok [.number ⟨false, c :: s, none⟩] := by
      rw [tokenize, String.toList_ofList, spelled_scan_cons _ _ _ _ hblank (lexeme?_digits c s h),
        scan]
      rfl
    have hoperand : operand? (.number ⟨false, c :: s, none⟩) = some (.error .overlong) := by
      rw [operand?, Numeral.toNumber, if_neg (Nat.not_le.2 hlong)]
      rfl
    rw [parse]
    cases htokens : tokenize (String.ofList (c :: s)) with
    | error stray =>
      rw [htokens] at hspelled
      cases hspelled
    | ok ts =>
      rw [htokens] at hspelled
      obtain ⟨t, hts, htoken⟩ := List.map_eq_singleton_iff.1 (Except.ok.inj hspelled)
      show parseTokens ts = _
      simp [parseTokens, hts, readOperand, htoken, hoperand]

end Stencil.Condition
