import Stencil.Proofs.ConditionPaths
import Stencil.Proofs.ShortConditions

/-!
# The text of a condition

Writing a condition out and reading it again gives the condition. No parenthesis is added to the
text, so this holds of expressions that the parser made: what stands as an operand in one of those
binds as tight as it has to, or is a group.

The way from an expression to itself is cut in two at the tokens (`Expr.tokens`). The text of an
expression spells its tokens (`spelled_toText`); that needs nothing of the expression but that its
constants and paths can be written. And if an expression is spelled by any tokens, then it is also
spelled by its own, by the same rule (`Derives.tokens`): only the numerals are others, and words
like `and` are not kept.

## Key results

- `spelled_toText`: the text of an expression spells its tokens.
- `Derives.tokens`: an expression of the grammar is spelled by its tokens.
- `textWithin_eq`: a condition is written out if there is room for it.
- `parse_textWithin`: a condition that was read is read again from what is written for it.
-/

namespace Stencil.Condition

open Stencil.Text

/-! ## The tokens of an expression -/

/-- The token that a constant is written as. A binary number has none that is sure to stand for
it. -/
def Literal.token? : Literal → Option Token
  | text s => some (.string s)
  | number (.whole n) => some (.number (.ofInt n))
  | number (.binary _) => none
  | bool b => some (.keyword (if b then .true else .false))
  | null => some (.keyword .null)
  | undefined => some (.keyword .undefined)

/-- The tokens that the text of an expression is made of. -/
def Expr.tokens : Expr → List Token
  | literal l => l.token?.toList
  | path name => [.path name]
  | compare r left right => left.tokens ++ .relation r :: right.tokens
  | both left right => left.tokens ++ .and :: right.tokens
  | either left right => left.tokens ++ .or :: right.tokens
  | negation e => .not :: e.tokens
  | group e => .opening :: (e.tokens ++ [.closing])

/-- The constant can be read from its text: it is no binary number, and if it is a text, then all
its characters can be written in a string. -/
def Literal.IsWritable : Literal → Prop
  | text s => ∀ c ∈ s.toList, Condition.IsWritable c
  | number (.whole _) => True
  | number (.binary _) => False
  | bool _ | null | undefined => True

/-! ## The text spells the tokens -/

/-- The text is read as the tokens, whatever follows behind a boundary. -/
def Spelled (text : List Char) (tokens : List Token) : Prop :=
  ∀ rest ts, IsBoundary rest → Spells rest ts → Spells (text ++ rest) (tokens ++ ts)

theorem spelled_name (c : Char) (s : List Char) (hc : startsName c = true) :
    Spelled (readPath c s).1 [tokenOfName (String.ofList (readPath c s).1)] := by
  intro rest ts hrest h
  obtain ⟨t, width, ht, hl⟩ := lexeme?_name c s rest hc hrest
  rw [ht]
  exact spells_lexeme c (t ++ rest) rest _ width ts (isBlank_of_startsName c hc) hl h

/-- A word without a dot is all of a path. -/
theorem readPath_of_isWord (c : Char) (s : List Char) (hs : ∀ d ∈ s, isWord d = true) :
    readPath c s = (c :: s, []) := by
  have htake := List.takeWhile_eq_self_iff.2 hs
  have hdrop := List.dropWhile_eq_nil_iff.2 hs
  rw [readPath, htake, hdrop, readSegments_of_isBoundary [] isBoundary_nil]
  simp

theorem spelled_keyword (word : Keyword) : Spelled word.word.toList [.keyword word] := by
  have hword : ∀ c s, startsName c = true → (∀ d ∈ s, isWord d = true) →
      Spelled (c :: s) [tokenOfName (String.ofList (c :: s))] := by
    intro c s hc hs
    have hname := spelled_name c s hc
    rwa [readPath_of_isWord c s hs] at hname
  cases word with
  | true => exact hword 't' ['r', 'u', 'e'] (by decide) (by simp [isWord])
  | false => exact hword 'f' ['a', 'l', 's', 'e'] (by decide) (by simp [isWord])
  | null => exact hword 'n' ['u', 'l', 'l'] (by decide) (by simp [isWord])
  | undefined =>
    exact hword 'u' ['n', 'd', 'e', 'f', 'i', 'n', 'e', 'd'] (by decide) (by simp [isWord])

/-- The text of a constant spells its token. -/
theorem spelled_literal (l : Literal) (hl : l.IsWritable) :
    Spelled l.toText.toList l.token?.toList := by
  cases l with
  | text s =>
    intro rest ts _ h
    obtain ⟨quote, body, width, hlist, hblank, hlexeme⟩ := lexeme?_quote s rest hl
    show Spells ((Text.quote s).toList ++ rest) (.string s :: ts)
    rw [hlist]
    exact spells_lexeme quote body rest _ width ts hblank hlexeme h
  | number n =>
    cases n with
    | binary x => exact hl.elim
    | whole n =>
      intro rest ts hrest h
      obtain ⟨c, s, width, hlist, hblank, hlexeme⟩ := lexeme?_ofInt n rest hrest
      show Spells ((Number.integerText n).toList ++ rest) (.number (.ofInt n) :: ts)
      rw [← Numeral.toList_ofInt, hlist]
      exact spells_lexeme c s rest _ width ts hblank hlexeme h
  | bool b =>
    cases b with
    | true => exact spelled_keyword .true
    | false => exact spelled_keyword .false
  | null => exact spelled_keyword .null
  | undefined => exact spelled_keyword .undefined

/-- An operator between two operands, with a space on either side. -/
theorem spelled_infix (left right operator : List Char) (ls rs : List Token) (t : Token)
    (hoperator : ∀ s ts, Spells s ts → Spells (' ' :: (operator ++ ' ' :: s)) (t :: ts))
    (hleft : Spelled left ls) (hright : Spelled right rs) :
    Spelled (left ++ ' ' :: (operator ++ ' ' :: right)) (ls ++ t :: rs) := by
  intro rest ts hrest h
  have hall := hleft _ _ (isBoundary_space _) (hoperator _ _ (hright rest ts hrest h))
  simpa using hall

/-- The text of a constant does not begin with an equals sign. -/
theorem head_literal (l : Literal) (hl : l.IsWritable) (rest : List Char) :
    (l.toText.toList ++ rest).head? ≠ some '=' := by
  cases l with
  | text s =>
    rw [Literal.toText, Text.quote, String.toList_ofList]
    rcases quoteFor_cases s.toList with h | h <;> simp [h]
  | number n =>
    cases n with
    | binary x => exact hl.elim
    | whole n =>
      obtain ⟨c, digits, hlist, hfirst⟩ := Numeral.exists_head_ofInt n
      rw [Literal.toText, Number.toText, ← Numeral.toList_ofInt, hlist]
      rintro heq
      cases heq
      exact absurd hfirst (by decide)
  | bool b => cases b <;> simp [Literal.toText, Value.boolText]
  | null => simp [Literal.toText]
  | undefined => simp [Literal.toText]

/-- The text of an expression does not begin with an equals sign. -/
theorem head_toText (e : Expr) (hl : ∀ l ∈ e.literals, l.IsWritable)
    (hp : ∀ path ∈ e.paths, IsPathName path) (rest : List Char) (hrest : rest.head? ≠ some '=') :
    (e.toText.toList ++ rest).head? ≠ some '=' := by
  induction e generalizing rest with
  | literal l => exact head_literal l (hl l (List.mem_singleton_self l)) rest
  | path name =>
    obtain ⟨c, s, hc, rfl, -⟩ := hp name (List.mem_singleton_self name)
    rw [Expr.toText, String.toList_ofList]
    rintro heq
    cases heq
    exact absurd hc (by decide)
  | compare r left right ihl _ | both left right ihl _ | either left right ihl _ =>
    -- the left operand comes first
    have hleft := ihl (fun l hm => hl l (List.mem_append_left _ hm))
      (fun path hm => hp path (List.mem_append_left _ hm))
    simp only [Expr.toText, String.toList_append, List.append_assoc]
    exact hleft _ (by simp)
  | negation e _ => simp [Expr.toText]
  | group e _ => simp [Expr.toText]

/-- The text of an expression spells its tokens. -/
theorem spelled_toText (e : Expr) (hl : ∀ l ∈ e.literals, l.IsWritable)
    (hp : ∀ path ∈ e.paths, IsPathName path) : Spelled e.toText.toList e.tokens := by
  induction e with
  | literal l => exact spelled_literal l (hl l (List.mem_singleton_self l))
  | path name =>
    obtain ⟨c, s, hc, rfl, htoken⟩ := hp name (List.mem_singleton_self name)
    have hname := spelled_name c s hc
    rw [htoken] at hname
    rw [Expr.toText, String.toList_ofList]
    exact hname
  | compare r left right ihl ihr =>
    have hleft := ihl (fun l hm => hl l (List.mem_append_left _ hm))
      (fun path hm => hp path (List.mem_append_left _ hm))
    have hright := ihr (fun l hm => hl l (List.mem_append_right _ hm))
      (fun path hm => hp path (List.mem_append_right _ hm))
    simpa [Expr.toText, Expr.tokens] using
      spelled_infix _ _ r.symbol.toList _ _ _ (spells_relation r) hleft hright
  | both left right ihl ihr =>
    have hleft := ihl (fun l hm => hl l (List.mem_append_left _ hm))
      (fun path hm => hp path (List.mem_append_left _ hm))
    have hright := ihr (fun l hm => hl l (List.mem_append_right _ hm))
      (fun path hm => hp path (List.mem_append_right _ hm))
    simpa [Expr.toText, Expr.tokens] using
      spelled_infix _ _ ['&', '&'] _ _ _ spells_and hleft hright
  | either left right ihl ihr =>
    have hleft := ihl (fun l hm => hl l (List.mem_append_left _ hm))
      (fun path hm => hp path (List.mem_append_left _ hm))
    have hright := ihr (fun l hm => hl l (List.mem_append_right _ hm))
      (fun path hm => hp path (List.mem_append_right _ hm))
    simpa [Expr.toText, Expr.tokens] using
      spelled_infix _ _ ['|', '|'] _ _ _ spells_or hleft hright
  | negation e ih =>
    intro rest ts hrest h
    have hhead : (e.toText.toList ++ rest).head? ≠ some '=' :=
      head_toText e hl hp rest fun heq => by
        rcases hrest '=' heq with hc | hc <;> exact absurd hc (by decide)
    have hall := spells_not _ _ hhead (ih hl hp rest ts hrest h)
    simpa [Expr.toText, Expr.tokens] using hall
  | group e ih =>
    intro rest ts _ h
    have hall := spells_opening _ _
      (ih hl hp _ _ (isBoundary_closing rest) (spells_closing rest ts h))
    simpa [Expr.toText, Expr.tokens] using hall

/-! ## The tokens spell the expression -/

/-- An integer that a numeral stands for is within the digit limit. -/
theorem natAbs_lt_of_toNumber (numeral : Numeral) (n : Int)
    (h : numeral.toNumber = .ok (.whole n)) : n.natAbs < 10 ^ digitLimit := by
  have hshort := isShort_toNumber numeral _ h
  unfold Number.isShort Number.isOverlong at hshort
  -- for any limit, so that the power is never computed
  generalize digitLimit = limit at hshort ⊢
  rw [Bool.not_eq_true', decide_eq_false_iff_not] at hshort
  exact Nat.not_le.1 hshort

/-- If any tokens spell an expression by a rule, then by the same rule its own do. -/
theorem Derives.tokens {rank : Rank} {ts : List Token} {e : Expr} (h : Derives rank ts e)
    (hl : ∀ l ∈ e.literals, l.IsWritable) : Derives rank e.tokens e := by
  induction h with
  | conjunction _ ih => exact .conjunction (ih hl)
  | equality _ ih => exact .equality (ih hl)
  | relational _ ih => exact .relational (ih hl)
  | unary _ ih => exact .unary (ih hl)
  | primary _ ih => exact .primary (ih hl)
  | or _ _ ihl ihr =>
    exact .or (ihl fun l hm => hl l (List.mem_append_left _ hm))
      (ihr fun l hm => hl l (List.mem_append_right _ hm))
  | and _ _ ihl ihr =>
    exact .and (ihl fun l hm => hl l (List.mem_append_left _ hm))
      (ihr fun l hm => hl l (List.mem_append_right _ hm))
  | equate op hop _ _ ihl ihr =>
    exact .equate op hop (ihl fun l hm => hl l (List.mem_append_left _ hm))
      (ihr fun l hm => hl l (List.mem_append_right _ hm))
  | order op hop _ _ ihl ihr =>
    exact .order op hop (ihl fun l hm => hl l (List.mem_append_left _ hm))
      (ihr fun l hm => hl l (List.mem_append_right _ hm))
  | not _ ih => exact .not (ih hl)
  | group _ ih => exact .group (ih hl)
  | string s => exact .string s
  | number numeral n hn =>
    -- the numeral that is written may have fewer digits than the one that was read
    cases n with
    | binary x => exact (hl _ (List.mem_singleton_self _)).elim
    | whole n => exact .number _ _ (Numeral.toNumber_ofInt n (natAbs_lt_of_toNumber numeral n hn))
  | keyword word => cases word <;> exact .keyword _
  | path name => exact .path name

/-- Parsing a text is deriving the tokens that it spells. -/
theorem parse_eq_ok_iff_spells (text : String) (e : Expr) : parse text = .ok e ↔
    ∃ ts, Spells text.toList ts ∧ Derives .disjunction ts e ∧ e.nesting ≤ nestingLimit := by
  rw [parse_eq_ok_iff_derives]
  unfold Spells
  constructor
  · rintro ⟨ts, htokens, h⟩
    refine ⟨_, ?_, h⟩
    show spelled (tokenize text) = _
    rw [htokens]
    rfl
  · rintro ⟨us, hspells, h⟩
    have htokens : spelled (tokenize text) = .ok us := hspells
    cases hscan : tokenize text with
    | error stray =>
      rw [hscan] at htokens
      cases htokens
    | ok ts =>
      rw [hscan] at htokens
      cases htokens
      exact ⟨ts, rfl, h⟩

/-- The text of an expression of the grammar is read as that expression. -/
theorem parse_toText_of_derives (e : Expr) (hderives : Derives .disjunction e.tokens e)
    (hnesting : e.nesting ≤ nestingLimit) (hl : ∀ l ∈ e.literals, l.IsWritable)
    (hp : ∀ path ∈ e.paths, IsPathName path) : parse e.toText = .ok e := by
  have hspells := spelled_toText e hl hp [] [] isBoundary_nil spells_nil
  rw [List.append_nil, List.append_nil] at hspells
  exact (parse_eq_ok_iff_spells e.toText e).2 ⟨e.tokens, hspells, hderives, hnesting⟩

/-- If a text is read as an expression, then the text of that expression is read as the same
expression. -/
theorem parse_toText (text : String) (e : Expr) (hparse : parse text = .ok e)
    (hl : ∀ l ∈ e.literals, l.IsWritable) : parse e.toText = .ok e := by
  obtain ⟨ts, -, hderives, hnesting⟩ := (parse_eq_ok_iff_derives text e).1 hparse
  have hp : ∀ path ∈ e.paths, IsPathName path := by
    intro path hpath
    refine isPathName_of_mem_pathsOf text path ?_
    rw [pathsOf, hparse]
    exact hpath
  exact parse_toText_of_derives e (hderives.tokens hl) hnesting hl hp

/-! ## With a stack -/

/-- Two texts with something between them are written if there is room for both of them in a
node. -/
theorem writeNode_pair (join : String → String → String) (l r : String) (m n : Nat)
    (left right : Nat → Except TooDeep String)
    (hleft : ∀ room, left room = if m ≤ room then .ok l else .error .tooDeep)
    (hright : ∀ room, right room = if n ≤ room then .ok r else .error .tooDeep) (room : Nat) :
    Expr.writeNode room (fun room => do return join (← left room) (← right room)) =
      if max m n + 1 ≤ room then .ok (join l r) else .error .tooDeep := by
  cases room with
  | zero => rfl
  | succ room =>
    rw [Expr.writeNode, hleft, hright]
    by_cases hm : m ≤ room
    · rw [if_pos hm]
      by_cases hn : n ≤ room
      · rw [if_pos hn, if_pos (by omega)]
        rfl
      · rw [if_neg hn, if_neg (by omega)]
        rfl
    · rw [if_neg hm, if_neg (show ¬max m n + 1 ≤ room + 1 by omega)]
      rfl

/-- One text with something around it. -/
theorem writeNode_map (wrap : String → String) (s : String) (n : Nat)
    (inside : Nat → Except TooDeep String)
    (h : ∀ room, inside room = if n ≤ room then .ok s else .error .tooDeep) (room : Nat) :
    Expr.writeNode room (fun room => do return wrap (← inside room)) =
      if n + 1 ≤ room then .ok (wrap s) else .error .tooDeep := by
  cases room with
  | zero => rfl
  | succ room =>
    rw [Expr.writeNode, h]
    by_cases hn : n ≤ room
    · rw [if_pos hn, if_pos (by omega)]
      rfl
    · rw [if_neg hn, if_neg (by omega)]
      rfl

/-- A condition is written out if there is room for the nodes around one another, and not
otherwise. -/
theorem textWithin_eq (e : Expr) (room : Nat) :
    e.textWithin room = if e.height ≤ room then .ok e.toText else .error .tooDeep := by
  induction e generalizing room with
  | literal l => exact (if_pos (Nat.zero_le room)).symm
  | path name => exact (if_pos (Nat.zero_le room)).symm
  | compare r left right ihl ihr =>
    exact writeNode_pair (fun l v => l ++ " " ++ r.symbol ++ " " ++ v) _ _ _ _ _ _ ihl ihr room
  | both left right ihl ihr =>
    exact writeNode_pair (fun l v => l ++ " && " ++ v) _ _ _ _ _ _ ihl ihr room
  | either left right ihl ihr =>
    exact writeNode_pair (fun l v => l ++ " || " ++ v) _ _ _ _ _ _ ihl ihr room
  | negation e ih => exact writeNode_map (fun s => "!" ++ s) _ _ _ ih room
  | group e ih => exact writeNode_map (fun s => "(" ++ s ++ ")") _ _ _ ih room

/-- Writing a condition out undoes reading it, where the stack has room for the nodes that stand
around one another: if a text is read as an expression, then the text that is written for it is read
as the same expression. Without that room nothing is written. The numbers of the expression must be
integers, and every character of its strings must be one that is shown as itself, or a quote, a
backslash, a line feed, a carriage return or a tab. An integer that was read has no more digits than
can be read. -/
theorem parse_textWithin (text : String) (e : Expr) (hparse : parse text = .ok e)
    (hl : ∀ l ∈ e.literals, l.IsWritable) (room : Nat) :
    (e.height ≤ room → ∃ s, e.textWithin room = .ok s ∧ parse s = .ok e) ∧
      (room < e.height → e.textWithin room = .error .tooDeep) := by
  constructor
  · intro hroom
    exact ⟨e.toText, by rw [textWithin_eq, if_pos hroom], parse_toText text e hparse hl⟩
  · intro hroom
    rw [textWithin_eq, if_neg (Nat.not_le.2 hroom)]

/-- A word for an operator, a strict equality, a numeral with leading zeros, and a string with a
quote and a line feed in it. -/
theorem parse_textWithin_rewritten :
    let text := "not a.b or (c==='it\\'s\\n')!=-007"
    let e : Expr := .either (.negation (.path "a.b"))
      (.compare .ne (.group (.compare .eq (.path "c") (.literal (.text "it's\n"))))
        (.literal (.number (.whole (-7)))))
    parse text = .ok e ∧ (∀ l ∈ e.literals, l.IsWritable) ∧ e.height = 4 ∧
      (∃ s, e.textWithin 4 = .ok s ∧ parse s = .ok e) ∧ e.textWithin 3 = .error .tooDeep ∧
      e.print = .ok "!a.b || (c == \"it's\\n\") != -7" := by
  intro text e
  have hparse : parse text = .ok e := by decide +kernel
  have hl : ∀ l ∈ e.literals, l.IsWritable := by
    have hliterals : e.literals = [.text "it's\n", .number (.whole (-7))] := rfl
    rw [hliterals]
    simp [Literal.IsWritable, Condition.IsWritable, isPrintable]
  exact ⟨hparse, hl, by decide, (parse_textWithin text e hparse hl 4).1 (by decide),
    (parse_textWithin text e hparse hl 3).2 (by decide), by decide⟩

/-! ## A condition that is read and not written -/

/-- A path, so many times again with an operator before it. -/
def chain : Nat → Expr
  | 0 => .path "a"
  | n + 1 => .both (chain n) (.path "a")

/-- A chain is a condition of any length. -/
theorem derives_chain (n : Nat) : Derives .conjunction (chain n).tokens (chain n) := by
  have hpath : Derives .equality [.path "a"] (.path "a") :=
    .relational (.unary (.primary (.path "a")))
  induction n with
  | zero => exact .equality hpath
  | succ n ih => exact .and ih hpath

/-- A chain has no constants, only the one path, no parentheses and no negations. -/
theorem chain_flat (n : Nat) : (chain n).literals = [] ∧ (∀ path ∈ (chain n).paths, path = "a") ∧
    (chain n).nesting = 0 ∧ (chain n).height = n := by
  induction n with
  | zero => exact ⟨rfl, by simp [chain, Expr.paths], rfl, rfl⟩
  | succ n ih =>
    obtain ⟨hliterals, hpaths, hnesting, hheight⟩ := ih
    refine ⟨by rw [chain, Expr.literals, hliterals]; rfl, ?_, ?_, ?_⟩
    · intro path hpath
      rcases List.mem_append.1 hpath with hpath | hpath
      · exact hpaths path hpath
      · exact List.mem_singleton.1 hpath
    · rw [chain, Expr.nesting, hnesting]
      rfl
    · rw [chain, Expr.height, hheight, Expr.height, Nat.max_zero]

/-- The text of a chain is read as the chain. -/
theorem parse_chain (n : Nat) : parse (chain n).toText = .ok (chain n) := by
  obtain ⟨hliterals, hpaths, hnesting, -⟩ := chain_flat n
  refine parse_toText_of_derives _ (.conjunction (derives_chain n)) (by omega) ?_ ?_
  · rw [hliterals]
    exact fun l hl => (List.not_mem_nil hl).elim
  · intro path hpath
    obtain rfl := hpaths path hpath
    exact ⟨'a', [], by decide, by simp [readPath_of_isWord], by decide⟩

theorem toText_chain (n : Nat) :
    (chain n).toText = "a" ++ String.join (List.replicate n " && a") := by
  induction n with
  | zero => rfl
  | succ n ih =>
    have hlast : String.join [" && a"] = " && " ++ "a" := rfl
    rw [chain, Expr.toText, Expr.toText, ih, List.replicate_succ', String.join_append, hlast,
      String.append_assoc, String.append_assoc]

/-- A text of 301 terms is read as a condition that cannot be written out. -/
theorem print_chain_eq_tooDeep :
    let text := "a" ++ String.join (List.replicate 300 " && a")
    let e := chain 300
    parse text = .ok e ∧ (∀ l ∈ e.literals, l.IsWritable) ∧ e.print = .error .tooDeep := by
  intro text e
  obtain ⟨hliterals, -, -, hheight⟩ := chain_flat 300
  have hparse : parse text = .ok e :=
    (congrArg parse (toText_chain 300)).symm.trans (parse_chain 300)
  have hl : ∀ l ∈ e.literals, l.IsWritable := by
    rw [hliterals]
    exact fun l hl => (List.not_mem_nil hl).elim
  have hprint : e.print = .error .tooDeep := by
    rw [Expr.print, textWithin_eq, hheight]
    rfl
  exact ⟨hparse, hl, hprint⟩

end Stencil.Condition
