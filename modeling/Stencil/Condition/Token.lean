import Stencil.Number.Basic
import Stencil.Text.Blank
import Stencil.Text.Word
import Stencil.Value.Compare

/-!
# Tokens of the condition language

The text of a condition is a run of lexemes with blanks between them. `lexeme?` reads the one a
text begins with, and `tokenize` reads them all, each with the offset it starts at.

* `length_of_lexeme?`: what follows a lexeme is shorter than the text.
-/

namespace Stencil.Condition

/-- Words with a value of their own. -/
inductive Keyword where
  | true
  | false
  | null
  | undefined
deriving Repr, DecidableEq

namespace Keyword

/-- How a keyword is written. -/
def word : Keyword → String
  | true => "true"
  | false => "false"
  | null => "null"
  | undefined => "undefined"

/-- The keyword that is written so. -/
def ofWord? (word : String) : Option Keyword :=
  [true, false, null, undefined].find? (·.word = word)

end Keyword

/-- The tokens of a condition. A string token holds its text without quotes and escapes; a number
token holds its numeral. -/
inductive Token where
  | string (text : String)
  | number (numeral : Numeral)
  | keyword (word : Keyword)
  | path (name : String)
  | relation (r : Relation)
  | and
  | or
  | not
  | opening
  | closing
deriving Repr, DecidableEq

namespace Token

/-- The text that stands for a token in messages. -/
def text : Token → String
  | string text => text
  | number numeral => String.ofList numeral.toList
  | keyword word => word.word
  | path name => name
  | relation r => r.symbol
  | and => "&&"
  | or => "||"
  | not => "!"
  | opening => "("
  | closing => ")"

end Token

/-! ## Strings -/

/-- Reads up to the closing quote: the characters before it, escapes included, and those after it.
A backslash takes the next character with it. -/
def readQuoted? (quote : Char) : List Char → Option (List Char × List Char)
  | [] => none
  | c :: s =>
    if c = quote then some ([], s)
    else if c = '\\' then
      match s with
      | [] => none
      | d :: s => (readQuoted? quote s).map fun (body, rest) => (c :: d :: body, rest)
    else (readQuoted? quote s).map fun (body, rest) => (c :: body, rest)

/-- The character that a backslash and `c` stand for. -/
def escaped (c : Char) : Char :=
  if c = 'n' then '\n' else if c = 't' then '\t' else if c = 'r' then '\r' else c

/-- Replaces escapes by the characters they stand for. -/
def unescape : List Char → List Char
  | [] => []
  | c :: s =>
    if c = '\\' then
      match s with
      | [] => [c]
      | d :: s => escaped d :: unescape s
    else c :: unescape s

/-! ## Names -/

/-- Characters that a name begins with: the letters of ASCII and the low line. -/
def startsName (c : Char) : Bool := c.isAlpha || c == '_'

/-- Reads the segments of a path after its first one: each is a dot and at least one word
character. -/
def readSegments : List Char → List Char × List Char
  | '.' :: c :: s =>
    if Text.isWord c then
      let segment := s.takeWhile Text.isWord
      let (more, rest) := readSegments (s.dropWhile Text.isWord)
      ('.' :: c :: segment ++ more, rest)
    else ([], '.' :: c :: s)
  | s => ([], s)
termination_by s => s.length
decreasing_by
  have := Text.length_dropWhile_le Text.isWord s
  simp only [List.length_cons]
  omega

/-- Reads a path whose first character is `c`. -/
def readPath (c : Char) (s : List Char) : List Char × List Char :=
  let (more, rest) := readSegments (s.dropWhile Text.isWord)
  (c :: s.takeWhile Text.isWord ++ more, rest)

/-- The token that a name stands for: an operator, a keyword or a path. -/
def tokenOfName (name : String) : Token :=
  if name = "and" then .and
  else if name = "or" then .or
  else if name = "not" then .not
  else
    match Keyword.ofWord? name with
    | some word => .keyword word
    | none => .path name

/-! ## Lexemes -/

/-- A token read off the start of a text: how many characters it takes, and what follows. -/
structure Lexeme where
  token : Token
  width : Nat
  rest : List Char
deriving Repr, DecidableEq

/-- Operators and parentheses as they are written, each before the ones that begin it. The strict
forms of equality stand for the plain ones. -/
def readSymbol? : List Char → Option Lexeme
  | '=' :: '=' :: '=' :: s => some ⟨.relation .eq, 3, s⟩
  | '!' :: '=' :: '=' :: s => some ⟨.relation .ne, 3, s⟩
  | '=' :: '=' :: s => some ⟨.relation .eq, 2, s⟩
  | '!' :: '=' :: s => some ⟨.relation .ne, 2, s⟩
  | '<' :: '=' :: s => some ⟨.relation .le, 2, s⟩
  | '>' :: '=' :: s => some ⟨.relation .ge, 2, s⟩
  | '&' :: '&' :: s => some ⟨.and, 2, s⟩
  | '|' :: '|' :: s => some ⟨.or, 2, s⟩
  | '<' :: s => some ⟨.relation .lt, 1, s⟩
  | '>' :: s => some ⟨.relation .gt, 1, s⟩
  | '!' :: s => some ⟨.not, 1, s⟩
  | '(' :: s => some ⟨.opening, 1, s⟩
  | ')' :: s => some ⟨.closing, 1, s⟩
  | _ => none

/-- Reads the string between two quotes, after the first one. -/
def readString? (quote : Char) (s : List Char) : Option Lexeme :=
  (readQuoted? quote s).map fun (body, rest) =>
    ⟨.string (String.ofList (unescape body)), body.length + 2, rest⟩

/-- Reads a numeral. -/
def readNumber? (s : List Char) : Option Lexeme :=
  (Numeral.read? s).map fun (numeral, rest) => ⟨.number numeral, numeral.toList.length, rest⟩

/-- Reads a name that begins with `c`. -/
def readName? (c : Char) (s : List Char) : Option Lexeme :=
  if startsName c then
    let (name, rest) := readPath c s
    some ⟨tokenOfName (String.ofList name), name.length, rest⟩
  else none

/-- Reads a quoted string, a numeral, an operator, a parenthesis or a name: the lexeme that the text
`c :: s` begins with. -/
def lexeme? (c : Char) (s : List Char) : Option Lexeme :=
  if c = '"' || c = '\'' then readString? c s
  else (readNumber? (c :: s)).or ((readSymbol? (c :: s)).or (readName? c s))

/-! ## Lexemes take characters away -/

theorem length_of_readQuoted? {quote : Char} {s body rest : List Char}
    (h : readQuoted? quote s = some (body, rest)) : rest.length < s.length := by
  fun_induction readQuoted? quote s generalizing body with
  | case1 => simp at h
  | case2 => simp_all
  | case3 => simp at h
  | case4 d s _ ih =>
    obtain ⟨⟨b, r⟩, hs, hb⟩ := Option.map_eq_some_iff.1 h
    cases hb
    have := ih hs
    simp only [List.length_cons]
    omega
  | case5 c s _ _ ih =>
    obtain ⟨⟨b, r⟩, hs, hb⟩ := Option.map_eq_some_iff.1 h
    cases hb
    have := ih hs
    simp only [List.length_cons]
    omega

theorem length_readSegments_le (s : List Char) : (readSegments s).2.length ≤ s.length := by
  fun_induction readSegments s with
  | case1 c s _ _ _ _ ih =>
    have := Text.length_dropWhile_le Text.isWord s
    simp_all
    omega
  | case2 => simp
  | case3 => simp

theorem length_of_readSymbol? {s : List Char} {l : Lexeme} (h : readSymbol? s = some l) :
    l.rest.length < s.length := by
  unfold readSymbol? at h
  split at h <;> cases h <;> simp only [List.length_cons] <;> omega

theorem length_of_readString? {quote : Char} {s : List Char} {l : Lexeme}
    (h : readString? quote s = some l) : l.rest.length < s.length := by
  obtain ⟨⟨body, rest⟩, hs, rfl⟩ := Option.map_eq_some_iff.1 h
  exact length_of_readQuoted? hs

theorem length_of_readNumber? {s : List Char} {l : Lexeme} (h : readNumber? s = some l) :
    l.rest.length < s.length := by
  obtain ⟨⟨numeral, rest⟩, hs, rfl⟩ := Option.map_eq_some_iff.1 h
  exact Numeral.length_of_read? hs

theorem length_of_readName? {c : Char} {s : List Char} {l : Lexeme}
    (h : readName? c s = some l) : l.rest.length ≤ s.length := by
  unfold readName? at h
  split at h
  · cases h
    have h₁ := length_readSegments_le (s.dropWhile Text.isWord)
    have h₂ := Text.length_dropWhile_le Text.isWord s
    simp only
    omega
  · simp at h

theorem length_of_lexeme? {c : Char} {s : List Char} {l : Lexeme} (h : lexeme? c s = some l) :
    l.rest.length < (c :: s).length := by
  unfold lexeme? at h
  split at h
  · have := length_of_readString? h
    simp only [List.length_cons]
    omega
  · rcases Option.or_eq_some_iff.1 h with h | ⟨-, h⟩
    · exact length_of_readNumber? h
    rcases Option.or_eq_some_iff.1 h with h | ⟨-, h⟩
    · exact length_of_readSymbol? h
    · have := length_of_readName? h
      simp only [List.length_cons]
      omega

/-! ## Token lists -/

/-- A token and the offset it starts at. -/
structure Located where
  token : Token
  offset : Nat
deriving Repr, DecidableEq

/-- The tokens of a condition and the length of its text. -/
structure Tokens where
  tokens : List Located
  stop : Nat
deriving Repr, DecidableEq

/-- A character that begins no lexeme, and its offset. -/
structure StrayCharacter where
  character : Char
  offset : Nat
deriving Repr, DecidableEq

/-- Reads all tokens of a text that starts at `offset`. -/
def scan (offset : Nat) (s : List Char) : Except StrayCharacter Tokens :=
  match s with
  | [] => .ok ⟨[], offset⟩
  | c :: s =>
    if Text.isBlank c then scan (offset + 1) s
    else
      match h : lexeme? c s with
      | none => .error ⟨c, offset⟩
      | some l =>
        have : l.rest.length < s.length + 1 := length_of_lexeme? h
        match scan (offset + l.width) l.rest with
        | .ok ts => .ok ⟨⟨l.token, offset⟩ :: ts.tokens, ts.stop⟩
        | .error e => .error e
termination_by s.length

/-- The tokens of a condition. -/
def tokenize (text : String) : Except StrayCharacter Tokens := scan 0 text.toList

end Stencil.Condition
