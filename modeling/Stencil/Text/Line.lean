/-!
# Lines

Three notions of a line live here.

* `lines` cuts a text at every line boundary that Unicode knows; a boundary at the very end opens
  no further line.
* `lineColumn` counts only line feeds, and gives the line and the column of an offset, both from
  one. `Place.advance` does the same count step by step.
* `unifyNewlines` replaces carriage returns, with or without a line feed after them, by line feeds.
-/

namespace Stencil.Text

/-- Characters that end a line. -/
def isLineBreak (c : Char) : Bool :=
  let n := c.toNat
  (10 ≤ n && n ≤ 13) || (28 ≤ n && n ≤ 30) || n == 0x85 || n == 0x2028 || n == 0x2029

/-- The lines of a text without the characters that end them. A carriage return and the line feed
after it end one line together. -/
def lines : List Char → List (List Char)
  | [] => []
  | c :: s =>
    if c = '\r' then
      match s with
      | '\n' :: s => [] :: lines s
      | s => [] :: lines s
    else if isLineBreak c then [] :: lines s
    else
      match lines s with
      | [] => [[c]]
      | line :: rest => (c :: line) :: rest

/-- Carriage returns become line feeds; one that stands before a line feed is dropped. -/
def unifyNewlines : List Char → List Char
  | [] => []
  | c :: s =>
    if c = '\r' then
      match s with
      | '\n' :: s => '\n' :: unifyNewlines s
      | s => '\n' :: unifyNewlines s
    else c :: unifyNewlines s

/-- The characters after the last line feed. -/
def lastLine (s : List Char) : List Char := (s.reverse.takeWhile (· != '\n')).reverse

/-- The line and the column, from one, of the character at `offset`. -/
def lineColumn (s : List Char) (offset : Nat) : Nat × Nat :=
  let before := s.take offset
  (before.count '\n' + 1, (lastLine before).length + 1)

end Stencil.Text

namespace Stencil

/-- A place in a text: how many characters stand before it, and its line and column, from one. -/
structure Place where
  offset : Nat
  line : Nat
  column : Nat
deriving Repr, DecidableEq

namespace Place

/-- The place before the first character. -/
def start : Place := ⟨0, 1, 1⟩

/-- The place after one more character. -/
def next (p : Place) (c : Char) : Place :=
  if c = '\n' then ⟨p.offset + 1, p.line + 1, 1⟩ else ⟨p.offset + 1, p.line, p.column + 1⟩

/-- The place after a run of characters. -/
def advance (p : Place) (s : List Char) : Place := s.foldl next p

@[simp] theorem advance_nil (p : Place) : p.advance [] = p := rfl

@[simp] theorem advance_cons (p : Place) (c : Char) (s : List Char) :
    p.advance (c :: s) = (p.next c).advance s := rfl

theorem advance_append (p : Place) (s t : List Char) :
    p.advance (s ++ t) = (p.advance s).advance t := List.foldl_append

/-- The text `line:column`. -/
def toText (p : Place) : String := toString p.line ++ ":" ++ toString p.column

end Place

end Stencil
