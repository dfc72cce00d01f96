import Stencil.Condition.Reader

/-!
# Evaluating conditions

The value of a condition, given what each path reads. `both` and `either` look at their right side
only when the left one does not settle the answer, and always give a truth value.

`evaluate` fails with a reason; `judge` is what a template uses, where a condition that fails is
false and its failure is reported. Only an integer of too many digits is no answer there either.
-/

namespace Stencil.Condition

/-- The greatest depth of logical operators inside one another that is evaluated. The stack holds a
thousand calls; each operator takes three of them, and forty are left for what goes on around the
evaluation. The negations, the parentheses and the blocks around a condition take their calls from
the same stack. They are not counted here: there are at most `nestingLimit` of the first two, and
the blocks of a template may stand in one another as deep as they like. -/
def operatorLimit : Nat := 320

/-- Why a condition has no truth value. -/
inductive Failure where
  | malformed (error : SyntaxError)
  | refused (error : CompareError)
  | tooLong
  | overlong
deriving Repr, DecidableEq

namespace Failure

/-- The failure of a reading. -/
def ofParse : ParseFailure → Failure
  | .malformed error => malformed error
  | .overlong => overlong

/-- The failure of a test of equality. -/
def ofEqual : EqualFailure → Failure
  | .overlong => overlong
  | .tooDeep => tooLong

/-- The failure of a comparison. -/
def ofCompare : CompareFailure → Failure
  | .refused error => refused error
  | .overlong => overlong

end Failure

/-- Whether two values are equal; `one` tells that they are one value that is read twice. -/
def relateEqual (one : Bool) (left right : Value) : Except Failure Bool :=
  (if one then left.equalSelf else left.equal right).mapError Failure.ofEqual

/-- Whether a relation holds between two values, or between one value and itself. -/
def relate (r : Relation) (one : Bool) (left right : Value) : Except Failure Bool :=
  match r with
  | .eq => relateEqual one left right
  | .ne => (relateEqual one left right).map (!·)
  | r => (left.compare right r.symbol).mapError Failure.ofCompare

namespace Expr

/-- The path that an operand reads, if it is a path, in parentheses or not. -/
def path? : Expr → Option String
  | path name => some name
  | group e => e.path?
  | _ => none

/-- Whether two operands read the same path, and so have one value. Other paths are taken to have
other values, although the items of two loops over one list may be the same. -/
def readsSame (left right : Expr) : Bool := left.path?.isSome && left.path? = right.path?

/-- The value of a condition. `look` reads a path, and `room` is how many logical operators may
still stand around one another. -/
def valueIn (look : String → Value) (room : Nat) : Expr → Except Failure Value
  | literal l => .ok l.value
  | path name => .ok (look name)
  | group e => e.valueIn look room
  | negation e => do
    let v ← e.valueIn look room
    return .bool !v.isTruthy
  | compare r left right => do
    let l ← left.valueIn look room
    let v ← right.valueIn look room
    return .bool (← relate r (left.readsSame right) l v)
  | both left right =>
    match room with
    | 0 => .error .tooLong
    | room + 1 => do
      let l ← left.valueIn look room
      if l.isTruthy then
        let v ← right.valueIn look room
        return .bool v.isTruthy
      else return .bool false
  | either left right =>
    match room with
    | 0 => .error .tooLong
    | room + 1 => do
      let l ← left.valueIn look room
      if l.isTruthy then return .bool true
      else
        let v ← right.valueIn look room
        return .bool v.isTruthy

/-- The value of a condition. -/
def value (look : String → Value) (e : Expr) : Except Failure Value :=
  e.valueIn look operatorLimit

/-- Whether a condition holds. -/
def holds (look : String → Value) (e : Expr) : Except Failure Bool :=
  (e.value look).map Value.isTruthy

end Expr

/-- Reads a condition. -/
def read (text : String) : Except Failure Expr :=
  (Reader.fresh.parse text).mapError Failure.ofParse

/-- Reads a condition and says whether it holds. -/
def evaluate (look : String → Value) (text : String) : Except Failure Bool := do
  let e ← read text
  e.holds look

end Stencil.Condition
