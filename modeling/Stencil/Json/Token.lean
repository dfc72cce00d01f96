import Stencil.Text.Blank
import Stencil.Text.Search
import Stencil.Value.Basic

/-!
# Tokens of a JSON document

A document is a run of punctuation and scalars with blanks between them. Scalars are read as the
values they stand for. A number with a fraction or an exponent is a binary floating-point number,
any other number an integer, of any size.

* `length_of_readToken?`: what follows a token is shorter than the text.
-/

namespace Stencil.Json

/-- A piece of punctuation, or a scalar. -/
inductive Token where
  | openList
  | closeList
  | openObject
  | closeObject
  | colon
  | comma
  | scalar (value : Value)
deriving Repr, Inhabited

/-! ## Strings -/

/-- The value of a hexadecimal digit. -/
def hexDigit? (c : Char) : Option Nat :=
  if c.isDigit then some (c.toNat - 48)
  else if 'a' ≤ c && c ≤ 'f' then some (c.toNat - 87)
  else if 'A' ≤ c && c ≤ 'F' then some (c.toNat - 55)
  else none

/-- The number that four hexadecimal digits spell. -/
def hexUnit? (a b c d : Char) : Option Nat := do
  let a ← hexDigit? a
  let b ← hexDigit? b
  let c ← hexDigit? c
  let d ← hexDigit? d
  return ((a * 16 + b) * 16 + c) * 16 + d

/-- The character that a backslash and `c` stand for, as a code unit. -/
def shortEscape? (c : Char) : Option Nat :=
  match c with
  | '"' => some 34
  | '\\' => some 92
  | '/' => some 47
  | 'b' => some 8
  | 'f' => some 12
  | 'n' => some 10
  | 'r' => some 13
  | 't' => some 9
  | _ => none

/-- Reads up to the closing quote: the code units before it, and the text after it. -/
def readUnits? : List Char → Option (List Nat × List Char)
  | [] => none
  | '"' :: s => some ([], s)
  | '\\' :: 'u' :: a :: b :: c :: d :: s => do
    let unit ← hexUnit? a b c d
    let (units, rest) ← readUnits? s
    return (unit :: units, rest)
  | '\\' :: c :: s => do
    let unit ← shortEscape? c
    let (units, rest) ← readUnits? s
    return (unit :: units, rest)
  | c :: s =>
    if c.toNat < 32 || c = '\\' then none
    else do
      let (units, rest) ← readUnits? s
      return (c.toNat :: units, rest)

/-- The characters of a list of code units: a high surrogate and the low one after it make one
character, and a surrogate that stands alone makes the replacement character. -/
def charsOfUnits : List Nat → List Char
  | [] => []
  | [unit] => [if 0xD800 ≤ unit && unit ≤ 0xDFFF then '\uFFFD' else Char.ofNat unit]
  | high :: low :: rest =>
    if 0xD800 ≤ high && high ≤ 0xDBFF && 0xDC00 ≤ low && low ≤ 0xDFFF then
      Char.ofNat (0x10000 + (high - 0xD800) * 0x400 + (low - 0xDC00)) :: charsOfUnits rest
    else if 0xD800 ≤ high && high ≤ 0xDFFF then '\uFFFD' :: charsOfUnits (low :: rest)
    else Char.ofNat high :: charsOfUnits (low :: rest)

/-! ## Numbers -/

/-- The digits that a text begins with. -/
def digits (s : List Char) : List Char := s.takeWhile Char.isDigit

/-- What follows the digits that a text begins with. -/
def afterDigits (s : List Char) : List Char := s.dropWhile Char.isDigit

/-- Reads a point and the digits after it; there has to be one. -/
def readFraction (s : List Char) : List Char × List Char :=
  match s with
  | '.' :: c :: rest => if c.isDigit then (digits (c :: rest), afterDigits (c :: rest)) else ([], s)
  | _ => ([], s)

/-- Reads the digits of an exponent of the given sign; there has to be one. -/
def readExponentDigits? (sign : Int) (s : List Char) : Option (Int × List Char) :=
  match digits s with
  | [] => none
  | ds => some (sign * (Text.natOfDigits ds : Int), afterDigits s)

/-- Reads the sign and the digits of an exponent. -/
def readSignedExponent? : List Char → Option (Int × List Char)
  | '+' :: s => readExponentDigits? 1 s
  | '-' :: s => readExponentDigits? (-1) s
  | s => readExponentDigits? 1 s

/-- Reads an exponent. -/
def readExponent? : List Char → Option (Int × List Char)
  | 'e' :: s => readSignedExponent? s
  | 'E' :: s => readSignedExponent? s
  | _ => none

/-- Whether digits may begin a number: a zero stands alone. -/
def wellFormedWhole : List Char → Bool
  | [] => false
  | ['0'] => true
  | '0' :: _ => false
  | _ => true

/-- Reads a number after its sign. -/
def readUnsigned? (negative : Bool) (s : List Char) : Option (Number × List Char) :=
  let whole := digits s
  let (fraction, rest) := readFraction (afterDigits s)
  let float (exponent : Int) : Number :=
    .binary (.ofScientific negative (Text.natOfDigits (whole ++ fraction))
      (exponent - (fraction.length : Int)))
  if wellFormedWhole whole then
    match readExponent? rest with
    | some (exponent, rest) => some (float exponent, rest)
    | none =>
      if !fraction.isEmpty then some (float 0, rest)
      else
        let magnitude : Int := Text.natOfDigits whole
        some (.whole (if negative then -magnitude else magnitude), rest)
  else none

/-! ## Tokens -/

/-- Reads the token that `c :: s` begins with. -/
def readToken? (c : Char) (s : List Char) : Option (Token × List Char) :=
  match c with
  | '[' => some (.openList, s)
  | ']' => some (.closeList, s)
  | '\x7b' => some (.openObject, s)
  | '\x7d' => some (.closeObject, s)
  | ':' => some (.colon, s)
  | ',' => some (.comma, s)
  | '"' =>
    (readUnits? s).map fun (units, rest) =>
      (.scalar (.text (String.ofList (charsOfUnits units))), rest)
  | 't' => (Text.afterPrefix? ['r', 'u', 'e'] s).map fun rest => (.scalar (.bool true), rest)
  | 'f' => (Text.afterPrefix? ['a', 'l', 's', 'e'] s).map fun rest => (.scalar (.bool false), rest)
  | 'n' => (Text.afterPrefix? ['u', 'l', 'l'] s).map fun rest => (.scalar .null, rest)
  | '-' => (readUnsigned? true s).map fun (n, rest) => (.scalar (.number n), rest)
  | c => (readUnsigned? false (c :: s)).map fun (n, rest) => (.scalar (.number n), rest)

/-! ## Tokens take characters away -/

theorem length_of_readUnits? {s rest : List Char} {units : List Nat}
    (h : readUnits? s = some (units, rest)) : rest.length < s.length := by
  fun_induction readUnits? s generalizing units with
  | case1 => simp at h
  | case2 s => simp_all
  | case3 a b c d s ih =>
    simp only [Option.bind_eq_bind, Option.bind_eq_some_iff] at h
    obtain ⟨_, _, ⟨us, r⟩, hs, h⟩ := h
    cases h
    have : r.length < s.length := ih hs
    simp only [List.length_cons]
    omega
  | case4 c s _ ih =>
    simp only [Option.bind_eq_bind, Option.bind_eq_some_iff] at h
    obtain ⟨_, _, ⟨us, r⟩, hs, h⟩ := h
    cases h
    have : r.length < s.length := ih hs
    simp only [List.length_cons]
    omega
  | case5 => simp at h
  | case6 c s _ _ _ _ ih =>
    simp only [Option.bind_eq_bind, Option.bind_eq_some_iff] at h
    obtain ⟨⟨us, r⟩, hs, h⟩ := h
    cases h
    have : r.length < s.length := ih hs
    simp only [List.length_cons]
    omega

theorem length_afterDigits_le (s : List Char) : (afterDigits s).length ≤ s.length :=
  Text.length_dropWhile_le _ s

theorem length_afterDigits_lt {s : List Char} (h : digits s ≠ []) :
    (afterDigits s).length < s.length := by
  have happend : (digits s).length + (afterDigits s).length = s.length := by
    rw [← List.length_append, digits, afterDigits, List.takeWhile_append_dropWhile]
  have := List.length_pos_iff.2 h
  omega

theorem length_readFraction_le (s : List Char) : (readFraction s).2.length ≤ s.length := by
  unfold readFraction
  split
  · split
    · have := length_afterDigits_le
      exact Nat.le_succ_of_le (this _)
    · exact Nat.le_refl _
  · exact Nat.le_refl _

theorem length_of_readExponentDigits? {sign e : Int} {s rest : List Char}
    (h : readExponentDigits? sign s = some (e, rest)) : rest.length ≤ s.length := by
  unfold readExponentDigits? at h
  split at h
  · simp at h
  · cases h
    exact length_afterDigits_le s

theorem length_of_readExponent? {s rest : List Char} {e : Int}
    (h : readExponent? s = some (e, rest)) : rest.length ≤ s.length := by
  have hsigned : ∀ t : List Char, readSignedExponent? t = some (e, rest) →
      rest.length ≤ t.length := by
    intro t ht
    unfold readSignedExponent? at ht
    split at ht
    · exact Nat.le_succ_of_le (length_of_readExponentDigits? ht)
    · exact Nat.le_succ_of_le (length_of_readExponentDigits? ht)
    · exact length_of_readExponentDigits? ht
  unfold readExponent? at h
  split at h
  · exact Nat.le_succ_of_le (hsigned _ h)
  · exact Nat.le_succ_of_le (hsigned _ h)
  · simp at h

theorem length_of_readUnsigned? {negative : Bool} {s rest : List Char}
    {n : Number} (h : readUnsigned? negative s = some (n, rest)) :
    rest.length < s.length := by
  unfold readUnsigned? at h
  dsimp only at h
  split at h
  · next hw =>
    have hne : digits s ≠ [] := by
      intro he
      simp [he, wellFormedWhole] at hw
    have h₁ := length_afterDigits_lt hne
    have h₂ := length_readFraction_le (afterDigits s)
    split at h
    · next he =>
      have := length_of_readExponent? he
      cases h
      omega
    · split at h <;> cases h <;> omega
  · simp at h

theorem length_of_readToken? {c : Char} {s rest : List Char} {t : Token}
    (h : readToken? c s = some (t, rest)) : rest.length < (c :: s).length := by
  unfold readToken? at h
  split at h
  iterate 6
    · cases h
      simp
  · obtain ⟨⟨units, r⟩, hs, h⟩ := Option.map_eq_some_iff.1 h
    cases h
    have := length_of_readUnits? hs
    simp only [List.length_cons]
    omega
  iterate 3
    · obtain ⟨r, hs, h⟩ := Option.map_eq_some_iff.1 h
      cases h
      rw [Text.afterPrefix?_eq_some_iff.1 hs]
      simp
      omega
  · obtain ⟨⟨v, r⟩, hs, h⟩ := Option.map_eq_some_iff.1 h
    cases h
    have := length_of_readUnsigned? hs
    simp only [List.length_cons]
    omega
  · obtain ⟨⟨v, r⟩, hs, h⟩ := Option.map_eq_some_iff.1 h
    cases h
    exact length_of_readUnsigned? hs

/-- The blanks of JSON. -/
def isBlank (c : Char) : Bool := c = ' ' || c = '\n' || c = '\r' || c = '\t'

/-- The tokens of a text, if it consists of tokens and blanks. -/
def tokenize? (s : List Char) : Option (List Token) :=
  match s with
  | [] => some []
  | c :: s =>
    if isBlank c then tokenize? s
    else
      match h : readToken? c s with
      | none => none
      | some (t, rest) =>
        have : rest.length < s.length + 1 := length_of_readToken? h
        (tokenize? rest).map (t :: ·)
termination_by s.length

end Stencil.Json
