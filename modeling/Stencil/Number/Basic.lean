import Stencil.Number.Binary64
import Stencil.Text.Blank
import Stencil.Text.Digit

/-!
# Numbers

A number is an integer of any size or a binary floating-point number. The two kinds are compared
by their exact values, so no integer is rounded by a comparison.

Integers are read from and written to decimal text only up to `digitLimit` digits; `Overlong` is
the refusal of a longer one.
-/

namespace Stencil

/-- The refusal to convert between an integer and a decimal text of more than `digitLimit`
digits. -/
inductive Overlong where
  | overlong
deriving Repr, DecidableEq

/-- The greatest count of decimal digits an integer is read from or written with. -/
def digitLimit : Nat := 4300

/-- A whole number, or a binary floating-point number. -/
inductive Number where
  | whole (n : Int)
  | binary (x : Binary64)
deriving Repr, DecidableEq

namespace Number

/-- The exact value, if the number is finite. -/
def toRat? : Number → Option Rat
  | whole n => some n
  | binary x => x.toRat?

/-- A number as a point of the extended line; there is none for "not a number". -/
inductive Extended where
  | below
  | finite (r : Rat)
  | above
deriving DecidableEq

/-- The point of the extended line that a number stands for. -/
def extended? : Number → Option Extended
  | whole n => some (.finite n)
  | binary (.nan _) => none
  | binary (.infinite true) => some .below
  | binary (.infinite false) => some .above
  | binary x => x.toRat?.map .finite

/-- The order of the extended line. -/
def Extended.order : Extended → Extended → Ordering
  | .below, .below => .eq
  | .below, _ => .lt
  | _, .below => .gt
  | .above, .above => .eq
  | .above, _ => .gt
  | _, .above => .lt
  | .finite a, .finite b => if a < b then .lt else if a = b then .eq else .gt

/-- How two numbers are ordered by their exact values; "not a number" is unordered. -/
def order? (a b : Number) : Option Ordering := do
  let x ← a.extended?
  let y ← b.extended?
  return x.order y

/-- Equality of exact values; "not a number" equals nothing. -/
def equal (a b : Number) : Bool := a.order? b == some .eq

/-- Equality that takes a "not a number" for itself: equal, or "not a number" with one payload. -/
def same (a b : Number) : Bool :=
  match a, b with
  | binary (.nan p), binary (.nan q) => p == q
  | _, _ => a.equal b

/-- Different from zero; "not a number" is. -/
def isNonzero : Number → Bool
  | whole n => n != 0
  | binary x => x.isNonzero

/-- The decimal text of an integer. -/
def integerText (n : Int) : String :=
  String.ofList (if n < 0 then '-' :: Nat.toDigits 10 n.natAbs else Nat.toDigits 10 n.natAbs)

/-- The decimal text of a number of any length. -/
def toText : Number → String
  | whole n => integerText n
  | binary x => x.toText

/-- Whether an integer has too many digits. -/
def isOverlong (n : Int) : Bool := Nat.pow 10 digitLimit ≤ n.natAbs

/-- The decimal text of a number, unless it is an integer of too many digits. -/
def toText? : Number → Except Overlong String
  | whole n => if isOverlong n then .error .overlong else .ok (integerText n)
  | binary x => .ok x.toText

end Number

/-- A decimal numeral as it is written: a sign, digits, and digits after a point if there is
one. -/
structure Numeral where
  negative : Bool
  whole : List Char
  fraction : Option (List Char)
deriving Repr, DecidableEq

namespace Numeral

/-- Reads the fraction of a numeral: a point and at least one digit. -/
def readFraction? : List Char → Option (List Char × List Char)
  | '.' :: s =>
    match s.takeWhile Text.isDigit with
    | [] => none
    | digits => some (digits, s.dropWhile Text.isDigit)
  | _ => none

/-- Reads the digits and the fraction of a numeral. -/
def readUnsigned? (negative : Bool) (s : List Char) : Option (Numeral × List Char) :=
  match s.takeWhile Text.isDigit with
  | [] => none
  | digits =>
    let rest := s.dropWhile Text.isDigit
    match readFraction? rest with
    | some (fraction, rest) => some (⟨negative, digits, some fraction⟩, rest)
    | none => some (⟨negative, digits, none⟩, rest)

/-- Reads the longest numeral a text begins with, and answers it with what follows. -/
def read? : List Char → Option (Numeral × List Char)
  | '-' :: s => readUnsigned? true s
  | s => readUnsigned? false s

/-- The characters of a numeral. -/
def toList (n : Numeral) : List Char :=
  (if n.negative then ['-'] else []) ++ n.whole ++
    match n.fraction with
    | some digits => '.' :: digits
    | none => []

/-- The number a numeral spells: an integer exactly, a fraction rounded to the nearest binary
number. -/
def toNumber (n : Numeral) : Except Overlong Number :=
  match n.fraction with
  | some digits =>
    .ok (.binary (.ofScientific n.negative (Text.natOfDigits (n.whole ++ digits))
      (-(digits.length : Int))))
  | none =>
    if n.whole.length ≤ digitLimit then
      let magnitude : Int := Text.natOfDigits n.whole
      .ok (.whole (if n.negative then -magnitude else magnitude))
    else .error .overlong

/-! ### Reading takes characters away -/

theorem length_of_readFraction? {s digits rest : List Char}
    (h : readFraction? s = some (digits, rest)) : rest.length ≤ s.length := by
  unfold readFraction? at h
  split at h
  · next s =>
    split at h
    · simp at h
    · cases h
      have := Text.length_dropWhile_le Text.isDigit s
      simp only [List.length_cons]
      omega
  · simp at h

theorem length_of_readUnsigned? {negative : Bool} {s rest : List Char} {n : Numeral}
    (h : readUnsigned? negative s = some (n, rest)) : rest.length < s.length := by
  unfold readUnsigned? at h
  have hdrop : (s.takeWhile Text.isDigit).length + (s.dropWhile Text.isDigit).length =
      s.length := by
    rw [← List.length_append, List.takeWhile_append_dropWhile]
  split at h
  · simp at h
  · next hne =>
    dsimp only at h
    have hpos : 0 < (s.takeWhile Text.isDigit).length :=
      List.length_pos_iff.2 fun he => hne he
    split at h
    · next hf =>
      cases h
      have := length_of_readFraction? hf
      omega
    · cases h
      omega

theorem length_of_read? {s rest : List Char} {n : Numeral}
    (h : read? s = some (n, rest)) : rest.length < s.length := by
  unfold read? at h
  split at h
  · have := length_of_readUnsigned? h
    simp only [List.length_cons]
    omega
  · exact length_of_readUnsigned? h

end Numeral

end Stencil
