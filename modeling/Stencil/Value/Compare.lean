import Stencil.Value.Basic
import Stencil.Text.Blank

/-!
# Comparing values

Equality and order of values as conditions see them.

* Equality is loose at the top: `null` equals `undefined`, a number equals the text that spells it,
  and `true` equals the text `true`. Inside lists and objects it is strict, save that truth values
  count as the numbers zero and one. A "not a number" differs from itself at the top and is the
  same as itself inside, so a list equals itself whatever it holds.
* Order is defined for two values that are numbers or spell numbers, and for two texts.

Comparing lists and objects takes one call for each that is inside another. The stack holds a
thousand calls, and what goes on around a comparison takes some of them; so there is a limit to how
deep values may stand in one another (`comparisonLimit`). It is met only where both sides go on, and
what tells two objects apart before is enough for an answer. How deep a value is that is shown in a
message plays no part here.
-/

namespace Stencil

/-- The comparison operators. -/
inductive Relation where
  | eq
  | ne
  | lt
  | le
  | gt
  | ge
deriving Repr, DecidableEq

namespace Relation

/-- How an operator is written. -/
def symbol : Relation → String
  | eq => "=="
  | ne => "!="
  | lt => "<"
  | le => "<="
  | gt => ">"
  | ge => ">="

/-- `==` and `!=`. -/
def isEquality : Relation → Bool
  | eq | ne => true
  | _ => false

/-- The order operator that is written so. -/
def orderOfSymbol? (symbol : String) : Option Relation :=
  [lt, le, gt, ge].find? (·.symbol = symbol)

/-- Whether a relation holds between two things that are ordered so; between unordered things none
does but `!=`. -/
def holds (r : Relation) (order : Option Ordering) : Bool :=
  match r with
  | eq => order == some .eq
  | ne => order != some .eq
  | lt => order == some .lt
  | le => order == some .lt || order == some .eq
  | gt => order == some .gt
  | ge => order == some .gt || order == some .eq

end Relation

/-- Why two values have no order. The texts are the values' forms in messages. -/
inductive CompareError where
  | incomparable (left operator right : String)
  | unknownOperator (operator : String)
deriving Repr, DecidableEq

/-- The message of a comparison error. -/
def CompareError.message : CompareError → String
  | incomparable left operator right =>
    "Cannot compare " ++ left ++ " " ++ operator ++ " " ++ right
  | unknownOperator operator => "Unknown comparison operator: " ++ operator

/-- How a comparison fails: for a reason that a condition reports, or on a numeral that is too
long. -/
inductive CompareFailure where
  | refused (error : CompareError)
  | overlong
deriving Repr, DecidableEq

/-- How a test of equality fails: on a numeral that is too long, or on lists and objects that stand
too deep in one another. -/
inductive EqualFailure where
  | overlong
  | tooDeep
deriving Repr, DecidableEq

/-- The greatest depth of lists and objects in one another that is compared: the stack's thousand
calls, less forty for what goes on around the comparison. -/
def comparisonLimit : Nat := 960

namespace Value

/-- The number a text spells, blanks around it allowed. -/
def spelledNumber? (s : String) : Except Overlong (Option Number) :=
  match Numeral.read? (Text.trim s.toList) with
  | some (numeral, []) => numeral.toNumber.map some
  | _ => .ok none

/-- The number that a value is or spells. Truth values are no numbers. -/
def number? : Value → Except Overlong (Option Number)
  | number n => .ok (some n)
  | text s => spelledNumber? s
  | _ => .ok none

/-- The number that a value stands for inside lists and objects. -/
def inner? : Value → Option Number
  | number n => some n
  | bool b => some (.whole (if b then 1 else 0))
  | _ => none

mutual

/-- Strict equality: same kind and same content. Objects are equal whatever the order of their
fields. This is equality without a limit to depth; `sameWithin` is how it is found out. -/
def same : Value → Value → Bool
  | undefined, undefined => true
  | null, null => true
  | text s, text t => s == t
  | list items, list others => sameItems items others
  | object fields, object others => fields.length == others.length && sameFields fields others
  | left, right =>
    match left.inner?, right.inner? with
    | some m, some n => m.same n
    | _, _ => false

/-- Two lists of equal length with equal items. -/
def sameItems : List Value → List Value → Bool
  | [], [] => true
  | item :: rest, other :: others => item.same other && sameItems rest others
  | _, _ => false

/-- Every field is a field of the other object, with an equal value. -/
def sameFields : List (String × Value) → Entries Value → Bool
  | [], _ => true
  | (name, value) :: rest, others =>
    match others.get? name with
    | some other => value.same other && sameFields rest others
    | none => false

end

/-- Whether items are equal one by one, to be told by `test`. The first that are not settle it. -/
def itemsAgree (test : Value → Value → Except EqualFailure Bool) :
    List Value → List Value → Except EqualFailure Bool
  | [], [] => .ok true
  | item :: rest, other :: others => do
    if ← test item other then itemsAgree test rest others else return false
  | _, _ => .ok false

/-- Whether every field is a field of the other object with an equal value, to be told by `test`.
The first that is not settles it. -/
def fieldsAgree (test : Value → Value → Except EqualFailure Bool) :
    List (String × Value) → Entries Value → Except EqualFailure Bool
  | [], _ => .ok true
  | (name, value) :: rest, others =>
    match others.get? name with
    | some other => do
      if ← test value other then fieldsAgree test rest others else return false
    | none => .ok false

/-- Strict equality, found out with room for so many lists and objects in one another. Those of
different sizes are not looked into. -/
def sameWithin : Nat → Value → Value → Except EqualFailure Bool
  | room, list items, list others =>
    match room with
    | 0 => .error .tooDeep
    | room + 1 =>
      if items.length = others.length then itemsAgree (sameWithin room) items others
      else .ok false
  | room, object fields, object others =>
    match room with
    | 0 => .error .tooDeep
    | room + 1 =>
      if fields.length = others.length then fieldsAgree (sameWithin room) fields others
      else .ok false
  | _, left, right => .ok (left.same right)

/-- Strict equality of a value that stands on both sides. What is in it stands on both sides as
well, and is not looked into. -/
def sameAsItself : Value → Except EqualFailure Bool
  | list items => itemsAgree (fun _ _ => .ok true) items items
  | object fields => fieldsAgree (fun _ _ => .ok true) fields fields
  | value => .ok (value.same value)

/-- Equality of numbers and texts that spell numbers, and strict equality of all else, as `strict`
finds it out. -/
def equalContent (strict : Value → Value → Except EqualFailure Bool) (left right : Value) :
    Except EqualFailure Bool :=
  match left, right with
  | text s, text t => .ok (s == t)
  | _, _ =>
    match left.number?, right.number? with
    | .ok m, .ok n =>
      match m, n with
      | some m, some n => .ok (m.equal n)
      | _, _ => strict left right
    | _, _ => .error .overlong

/-- Equality in a condition, with strict equality as `strict` finds it out. -/
def equalBy (strict : Value → Value → Except EqualFailure Bool) (left right : Value) :
    Except EqualFailure Bool :=
  if left.isNullish || right.isNullish then .ok (left.isNullish && right.isNullish)
  else
    match left, right with
    | bool a, bool b => .ok (a == b)
    | bool a, text t => .ok (boolText a == t)
    | text s, bool b => .ok (s == boolText b)
    | bool _, _ | _, bool _ => .ok false
    | _, _ => equalContent strict left right

/-- Equality in a condition, of two values. -/
def equal (left right : Value) : Except EqualFailure Bool :=
  equalBy (sameWithin comparisonLimit) left right

/-- Equality in a condition, of a value that stands on both sides. -/
def equalSelf (value : Value) : Except EqualFailure Bool :=
  equalBy (fun left _ => left.sameAsItself) value value

/-- The error of two values that have no order. -/
def incomparable (left right : Value) (operator : String) : CompareFailure :=
  match left.display?, right.display? with
  | .ok l, .ok r => .refused (.incomparable l operator r)
  | _, _ => .overlong

/-- The order of two texts, by code points. -/
def textOrder (s t : String) : Ordering :=
  if s < t then .lt else if s = t then .eq else .gt

/-- The order of two values: of numbers, and of texts that do not both spell numbers. `none` when a
number is "not a number". -/
def order (left right : Value) (operator : String) : Except CompareFailure (Option Ordering) :=
  match left.number?, right.number? with
  | .ok (some m), .ok (some n) => .ok (m.order? n)
  | .ok _, .ok _ =>
    match left, right with
    | text s, text t => .ok (some (textOrder s t))
    | _, _ => .error (incomparable left right operator)
  | _, _ => .error .overlong

/-- Whether an order operator, given by its text, holds between two values. -/
def compare (left right : Value) (operator : String) : Except CompareFailure Bool := do
  let order ← left.order right operator
  match Relation.orderOfSymbol? operator with
  | some r => return r.holds order
  | none => throw (.refused (.unknownOperator operator))

end Value

end Stencil
