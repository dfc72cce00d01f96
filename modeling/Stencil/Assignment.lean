import Stencil.Text.Blank
import Stencil.Value.Path

/-!
# Assignments

Values given one by one, as texts `path=value`.
-/

namespace Stencil.Assignment

/-- A text that is no assignment. -/
structure Invalid where
  item : String
deriving Repr, DecidableEq

/-- The message on a text that is no assignment. -/
def Invalid.message (e : Invalid) : String :=
  "Invalid assignment '" ++ e.item ++ "'. Expected 'key=value'"

/-- The path and the value of an assignment. The path is trimmed and may not be blank; the value is
all that follows the first equals sign. -/
def read? (item : String) : Option (String × String) := do
  let (key, value) ← Text.cut? ['='] item.toList
  match Text.trim key with
  | [] => none
  | key => some (String.ofList key, String.ofList value)

/-- Makes assignments one after another. -/
def assignAll (data : Entries Value) : List String → Except Invalid (Entries Value)
  | [] => .ok data
  | item :: rest =>
    match read? item with
    | none => .error ⟨item⟩
    | some (path, value) => assignAll (Value.assign data path (.text value)) rest

/-- The data that assignments make. -/
def readAll (items : List String) : Except Invalid (Entries Value) := assignAll [] items

end Stencil.Assignment
