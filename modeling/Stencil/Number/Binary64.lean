/-!
# Binary floating-point numbers

The values of the 64-bit binary format, as exact data: a sign, a significand below `2 ^ 53` and an
exponent of two. A "not a number" has a payload, which tells one from another. Only what the program
needs is here, and it needs no arithmetic: rounding a fraction to the nearest value, the exact value
as a rational, and the shortest decimal text that rounds back.

* `ofRatio` rounds to nearest, ties to the even significand;
* `toText` tries 1, 2, … 17 digits and keeps the first count with a decimal that `ofRatio` takes
  back to the value.
-/

namespace Stencil

/-- A value of the 64-bit binary floating-point format. A finite value is
`± significand * 2 ^ exponent`. -/
inductive Binary64 where
  | nan (payload : Nat)
  | infinite (negative : Bool)
  | finite (negative : Bool) (significand : Nat) (exponent : Int)
deriving Repr, DecidableEq

namespace Binary64

/-- The least exponent of a finite value. -/
def minExponent : Int := -1074

/-- The greatest exponent of a finite value. -/
def maxExponent : Int := 971

/-- The count of bits of a significand. -/
def precision : Nat := 53

/-- The zero of the given sign. -/
def zero (negative : Bool) : Binary64 := finite negative 0 minExponent

/-- `num / den / 2 ^ e`, as a fraction of natural numbers. -/
def scaled (num den : Nat) (e : Int) : Nat × Nat :=
  (num * Nat.pow 2 (-e).toNat, den * Nat.pow 2 e.toNat)

/-- The quotient rounded to the nearest natural number, a tie to the even one. -/
def roundHalfEven (num den : Nat) : Nat :=
  let q := num / den
  let r := num % den
  if 2 * r > den || (2 * r == den && q % 2 == 1) then q + 1 else q

/-- The exponent at which `num / den` has a significand of full precision, or the least one. -/
def exponentFor (num den : Nat) : Int :=
  let guess : Int := (num.log2 : Int) - (den.log2 : Int) - (precision : Int)
  let (n, d) := scaled num den guess
  max minExponent (if n / d < Nat.pow 2 precision then guess else guess + 1)

/-- The value nearest to `± num / den`; of two that are equally near, the one with the even
significand. -/
def ofRatio (negative : Bool) (num den : Nat) : Binary64 :=
  if num = 0 then zero negative
  else
    let e := exponentFor num den
    let (n, d) := scaled num den e
    let m := roundHalfEven n d
    let (m, e) := if m = Nat.pow 2 precision then (Nat.pow 2 (precision - 1), e + 1) else (m, e)
    if e > maxExponent then infinite negative else finite negative m e

/-- The value nearest to `± digits * 10 ^ exponent`. A decimal far out of range is settled by its
size, without its power of ten. -/
def ofScientific (negative : Bool) (digits : Nat) (exponent : Int) : Binary64 :=
  if digits = 0 then zero negative
  else if exponent > 400 then infinite negative
  else if (digits.log2 : Int) + 1 + exponent < -400 then zero negative
  else ofRatio negative (digits * Nat.pow 10 exponent.toNat) (Nat.pow 10 (-exponent).toNat)

/-- The exact value of a finite number. -/
def toRat? : Binary64 → Option Rat
  | finite negative m e =>
    let magnitude := (m : Rat) * (2 : Rat) ^ e
    some (if negative then -magnitude else magnitude)
  | _ => none

/-- Neither zero. -/
def isNonzero : Binary64 → Bool
  | finite _ m _ => m != 0
  | _ => true

/-! ## Text -/

/-- The place of the first digit of `num / den`: the greatest `k` with `10 ^ k ≤ num / den`.
Needs `0 < num`. -/
def decimalExponent (num den : Nat) : Int :=
  let whole : Int := (Nat.toDigits 10 (num / den)).length - 1
  if den ≤ num then whole
  else
    let k : Int := -((Nat.toDigits 10 (den / num)).length : Int)
    if den ≤ num * Nat.pow 10 (-(k + 1)).toNat then k + 1 else k

/-- Of the two decimals of `count` digits around `num / den`, those that round back to `x`; the
nearer one first, and of two equally near the even one. A decimal is a digit sequence, as a number,
and the place of its last digit. -/
def candidates (x : Binary64) (num den : Nat) (count : Nat) : List (Nat × Int) :=
  let last : Int := decimalExponent num den - (count : Int) + 1
  let n := num * Nat.pow 10 (-last).toNat
  let d := den * Nat.pow 10 last.toNat
  let low := n / d
  let near := roundHalfEven n d
  let pair := [near, if near = low then low + 1 else low]
  (pair.map fun digits => (digits, last)).filter fun (digits, last) =>
    ofScientific false digits last == x

/-- The shortest decimal that rounds back to the positive number `m * 2 ^ e`. -/
def shortest (m : Nat) (e : Int) : Nat × Int :=
  let num := m * Nat.pow 2 e.toNat
  let den := Nat.pow 2 (-e).toNat
  let found := (List.range 17).findSome? fun count =>
    (candidates (finite false m e) num den (count + 1)).head?
  found.getD (m, e)

/-- Drops the zeros a digit sequence ends with. -/
def dropTrailingZeros (digits : List Char) : List Char :=
  match (digits.reverse.dropWhile (· == '0')).reverse with
  | [] => ['0']
  | kept => kept

/-- An exponent of ten: `e`, a sign, and at least two digits. -/
def exponentText (e : Int) : List Char :=
  let digits := Nat.toDigits 10 e.natAbs
  'e' :: (if e < 0 then '-' else '+') :: (List.replicate (2 - digits.length) '0' ++ digits)

/-- Digits `d₁d₂…` with the point after the first digit and `10 ^ place` as a factor: without an
exponent from `10 ^ -4` up to below `10 ^ 16`, and then with at least one digit after the point. -/
def layOut (digits : List Char) (place : Int) : List Char :=
  if place < -4 || 16 ≤ place then
    let mantissa :=
      match digits with
      | first :: second :: rest => first :: '.' :: second :: rest
      | short => short
    mantissa ++ exponentText place
  else if place < 0 then
    '0' :: '.' :: (List.replicate ((-place).toNat - 1) '0' ++ digits)
  else
    let count := place.toNat + 1
    let whole := digits.take count ++ List.replicate (count - digits.length) '0'
    match digits.drop count with
    | [] => whole ++ ['.', '0']
    | fraction => whole ++ '.' :: fraction

/-- The shortest decimal text that rounds back to the number. -/
def toText : Binary64 → String
  | nan _ => "nan"
  | infinite negative => if negative then "-inf" else "inf"
  | finite negative m e =>
    let body :=
      if m = 0 then ['0', '.', '0']
      else
        let (n, last) := shortest m e
        let all := Nat.toDigits 10 n
        layOut (dropTrailingZeros all) (last + (all.length : Int) - 1)
    String.ofList (if negative then '-' :: body else body)

end Binary64

end Stencil
