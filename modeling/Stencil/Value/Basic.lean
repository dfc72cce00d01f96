import Stencil.Entries
import Stencil.Number.Basic
import Stencil.Text.Quoted

/-!
# Values

The data a template is filled with: the values of a JSON document, and `undefined`, which is what a
path that leads nowhere reads. A value has two texts. `text?` is what a placeholder is replaced by;
`display?` is the one-line form that messages show.
-/

namespace Stencil

/-- A data value. -/
inductive Value where
  | undefined
  | null
  | bool (b : Bool)
  | number (n : Number)
  | text (s : String)
  | list (items : List Value)
  | object (fields : List (String × Value))
deriving Repr, Inhabited

namespace Value

/-- The integer `n`. -/
def int (n : Int) : Value := number (.whole n)

/-- Neither a value nor a blank: `undefined` and `null`. -/
def isNullish : Value → Bool
  | undefined | null => true
  | _ => false

/-- What counts as true in a condition. False are `undefined`, `null`, `false`, zero, and the empty
text, list and object; the text `0` is true. -/
def isTruthy : Value → Bool
  | undefined | null => false
  | bool b => b
  | number n => n.isNonzero
  | text s => s != ""
  | list items => !items.isEmpty
  | object fields => !fields.isEmpty

/-- The word for a truth value. -/
def boolText (b : Bool) : String := if b then "true" else "false"

/-- What a placeholder is replaced by: the text of a scalar, and nothing for lists, objects and
values that are not there. -/
def text? : Value → Except Overlong String
  | bool b => .ok (boolText b)
  | number n => n.toText?
  | text s => .ok s
  | undefined | null | list _ | object _ => .ok ""

/-- Texts one after another with `, ` between them. -/
def commaSeparated (parts : List String) : String := String.intercalate ", " parts

mutual

/-- The form of a value in messages: quoted texts, brackets around lists, braces around objects,
and capitalised words for the rest. How deep a value is plays no part here, although the stack holds
a thousand calls only. -/
def display? : Value → Except Overlong String
  | undefined => .ok "UNDEFINED"
  | null => .ok "None"
  | bool b => .ok (if b then "True" else "False")
  | number n => n.toText?
  | text s => .ok (Text.quote s)
  | list items => do
    let parts ← displayItems? items
    return "[" ++ commaSeparated parts ++ "]"
  | object fields => do
    let parts ← displayFields? fields
    return "\x7b" ++ commaSeparated parts ++ "\x7d"

/-- The forms of the items of a list. -/
def displayItems? : List Value → Except Overlong (List String)
  | [] => .ok []
  | item :: rest => do
    let part ← item.display?
    let parts ← displayItems? rest
    return part :: parts

/-- The forms `name: value` of the fields of an object. -/
def displayFields? : List (String × Value) → Except Overlong (List String)
  | [] => .ok []
  | (name, value) :: rest => do
    let part ← value.display?
    let parts ← displayFields? rest
    return (Text.quote name ++ ": " ++ part) :: parts

end

end Value

end Stencil
