import Stencil.Value.Basic

/-!
# Writing JSON documents

A value as a JSON document, one item or field to a line, each level two columns further in. All
characters are written as they are, save quotes, backslashes and controls.
-/

namespace Stencil.Json

/-- One character of a JSON string. -/
def writeChar (c : Char) : List Char :=
  if c = '"' then ['\\', '"']
  else if c = '\\' then ['\\', '\\']
  else if c = '\n' then ['\\', 'n']
  else if c = '\r' then ['\\', 'r']
  else if c = '\t' then ['\\', 't']
  else if c.toNat = 8 then ['\\', 'b']
  else if c.toNat = 12 then ['\\', 'f']
  else if c.toNat < 32 then '\\' :: 'u' :: Text.hex 4 c.toNat
  else [c]

/-- A JSON string. -/
def writeText (s : String) : String :=
  String.ofList ('"' :: s.toList.flatMap writeChar ++ ['"'])

/-- A new line, `depth` levels in. -/
def newLine (depth : Nat) : String := "\n" ++ String.ofList (List.replicate (2 * depth) ' ')

/-- Parts between two brackets, each on a line of its own. -/
def writeParts (opening closing : String) (depth : Nat) : List String → String
  | [] => opening ++ closing
  | parts =>
    opening ++ newLine (depth + 1) ++ String.intercalate ("," ++ newLine (depth + 1)) parts ++
      newLine depth ++ closing

mutual

/-- A value, `depth` levels in. -/
def write (depth : Nat) : Value → String
  | .undefined | .null => "null"
  | .bool b => Value.boolText b
  | .number n => n.toText
  | .text s => writeText s
  | .list items => writeParts "[" "]" depth (writeItems (depth + 1) items)
  | .object fields => writeParts "\x7b" "\x7d" depth (writeFields (depth + 1) fields)

/-- The items of a list. -/
def writeItems (depth : Nat) : List Value → List String
  | [] => []
  | item :: rest => write depth item :: writeItems depth rest

/-- The fields of an object. -/
def writeFields (depth : Nat) : List (String × Value) → List String
  | [] => []
  | (name, value) :: rest => (writeText name ++ ": " ++ write depth value) :: writeFields depth rest

end

end Stencil.Json
