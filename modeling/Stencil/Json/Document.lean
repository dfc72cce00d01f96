import Stencil.Json.Layout
import Stencil.Json.Reader

/-!
# Documents

A document is a JSON text that keeps to the rules of `Json.layOut` and has no fault: no integer has
too many digits, and no name comes twice in one object. Faults are looked for level by level, from
the outside in, and the first one is reported. A byte order mark may stand before the text.
-/

namespace Stencil.Json

/-- Why a text is no document. -/
inductive ReadError where
  | malformed
  | tooDeep
  | repeatedName (name : String)
  | overlong
deriving Repr, DecidableEq

/-! ## Faults -/

mutual

/-- A value and what is inside it, level by level, laid over the levels of what follows it. -/
def levelsBefore : Value → List (List Value) → List (List Value)
  | .list items, below => (.list items :: below.headD []) :: levelsOfItems items below.tail
  | .object fields, below => (.object fields :: below.headD []) :: levelsOfFields fields below.tail
  | value, below => (value :: below.headD []) :: below.tail

/-- The levels of items, laid over the levels of what follows them. -/
def levelsOfItems : List Value → List (List Value) → List (List Value)
  | [], below => below
  | item :: rest, below => levelsBefore item (levelsOfItems rest below)

/-- The levels of the values of fields, laid over the levels of what follows them. -/
def levelsOfFields : List (String × Value) → List (List Value) → List (List Value)
  | [], below => below
  | (_, value) :: rest, below => levelsBefore value (levelsOfFields rest below)

end

/-- A value, what it holds, what that holds, and so on. -/
def levels (value : Value) : List (List Value) := levelsBefore value []

/-- The fault of a value that is an integer. -/
def integerFault? : Value → Option ReadError
  | .number (.whole n) => if Number.isOverlong n then some .overlong else none
  | _ => none

/-- The first fault among the fields of an object, after fields with the given names. -/
def fieldsFault? (before : List String) : List (String × Value) → Option ReadError
  | [] => none
  | (name, value) :: rest =>
    match integerFault? value with
    | some fault => some fault
    | none =>
      if before.contains name then some (.repeatedName name)
      else fieldsFault? (name :: before) rest

/-- The first fault of a value, apart from those inside the containers it holds. -/
def ownFault? : Value → Option ReadError
  | .list items => items.findSome? integerFault?
  | .object fields => fieldsFault? [] fields
  | value => integerFault? value

/-- The first fault of a value. -/
def fault? (value : Value) : Option ReadError := (levels value).flatten.findSome? ownFault?

/-! ## Reading -/

/-- The error of a text that is not laid out as a document. -/
def ReadError.ofLayout : LayoutError → ReadError
  | .misplaced => .malformed
  | .tooDeep => .tooDeep

/-- The characters of a document after its byte order mark. -/
def characters (document : String) : List Char :=
  match document.toList with
  | '\uFEFF' :: rest => rest
  | all => all

/-- The value that a document stands for. -/
def readDocument (document : String) : Except ReadError Value :=
  match layOut (characters document) with
  | .error e => .error (.ofLayout e)
  | .ok text =>
    match parse? text with
    | none => .error .malformed
    | some value =>
      match fault? value with
      | some fault => .error fault
      | none => .ok value

/-- Whether a document holds nothing but spaces and line ends. -/
def isEmptyDocument (document : String) : Bool :=
  (characters document).all fun c => c = ' ' || c = '\n'

end Stencil.Json
