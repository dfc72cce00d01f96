import Stencil.Json.Token

/-!
# Reading JSON

The value that a JSON text stands for. Objects keep the order of their fields, and a name may come
twice. The reader goes through the tokens once and keeps the containers that are not complete on a
stack.
-/

namespace Stencil.Json

/-- A container that is not complete: the items read so far, the last one first, or the fields read
so far, the last one first, and the name of the field to come. -/
inductive Frame where
  | list (items : List Value)
  | object (fields : List (String × Value)) (name : String)

mutual

/-- Reads on where a value has to come. -/
def readValue (stack : List Frame) : List Token → Option Value
  | .openList :: .closeList :: rest => readAfter stack (.list []) rest
  | .openList :: rest => readValue (.list [] :: stack) rest
  | .openObject :: .closeObject :: rest => readAfter stack (.object []) rest
  | .openObject :: .scalar (.text name) :: .colon :: rest =>
    readValue (.object [] name :: stack) rest
  | .scalar value :: rest => readAfter stack value rest
  | _ => none

/-- Reads on after a value. -/
def readAfter (stack : List Frame) (value : Value) (ts : List Token) : Option Value :=
  match stack, ts with
  | [], [] => some value
  | .list items :: stack, .comma :: rest => readValue (.list (value :: items) :: stack) rest
  | .list items :: stack, .closeList :: rest =>
    readAfter stack (.list (value :: items).reverse) rest
  | .object fields name :: stack, .comma :: .scalar (.text next) :: .colon :: rest =>
    readValue (.object ((name, value) :: fields) next :: stack) rest
  | .object fields name :: stack, .closeObject :: rest =>
    readAfter stack (.object ((name, value) :: fields).reverse) rest
  | _, _ => none

end

/-- The value that a text stands for, if it is well formed. -/
def parse? (text : List Char) : Option Value := (tokenize? text).bind (readValue [])

end Stencil.Json
