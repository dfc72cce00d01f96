import Stencil.Value.Compare

/-!
# Condition expressions

The abstract syntax of conditions, and its text form. Parentheses are kept as nodes, so that the
text of an expression has the parentheses it was read with.

An expression is written out node by node, each inside the one around it, and the stack does not
hold as many as the parser reads: a chain of operators can be read that cannot be written out.
-/

namespace Stencil.Condition

/-- The constants of the condition language. -/
inductive Literal where
  | text (s : String)
  | number (n : Number)
  | bool (b : Bool)
  | null
  | undefined
deriving Repr, DecidableEq

namespace Literal

/-- The value of a constant. -/
def value : Literal → Value
  | text s => .text s
  | number n => .number n
  | bool b => .bool b
  | null => .null
  | undefined => .undefined

/-- The text of a constant. -/
def toText : Literal → String
  | text s => Text.quote s
  | number n => n.toText
  | bool b => Value.boolText b
  | null => "null"
  | undefined => "undefined"

end Literal

/-- A condition. -/
inductive Expr where
  | literal (l : Literal)
  | path (name : String)
  | compare (r : Relation) (left right : Expr)
  | both (left right : Expr)
  | either (left right : Expr)
  | negation (e : Expr)
  | group (e : Expr)
deriving Repr, DecidableEq

/-- An expression cannot be written out: too many of its nodes stand around one another. -/
inductive TooDeep where
  | tooDeep
deriving Repr, DecidableEq

/-- The greatest count of nodes around one another, each with something in it, that is written out.
The stack holds a thousand calls; each node takes four of them, and forty are left for what goes on
around the writing. -/
def textLimit : Nat := 240

namespace Expr

/-- The text of a condition, if there is a stack for it. -/
def toText : Expr → String
  | literal l => l.toText
  | path name => name
  | compare r left right => left.toText ++ " " ++ r.symbol ++ " " ++ right.toText
  | both left right => left.toText ++ " && " ++ right.toText
  | either left right => left.toText ++ " || " ++ right.toText
  | negation e => "!" ++ e.toText
  | group e => "(" ++ e.toText ++ ")"

/-- The greatest count of nodes around one another that have something in them. -/
def height : Expr → Nat
  | literal _ | path _ => 0
  | compare _ left right | both left right | either left right => max left.height right.height + 1
  | negation e | group e => e.height + 1

/-- Writes out a node that has something in it. What is in it has room for one node less. -/
def writeNode (room : Nat) (inside : Nat → Except TooDeep String) : Except TooDeep String :=
  match room with
  | 0 => .error .tooDeep
  | room + 1 => inside room

/-- Writes out a condition with room for so many nodes around one another. -/
def textWithin (room : Nat) : Expr → Except TooDeep String
  | literal l => .ok l.toText
  | path name => .ok name
  | compare r left right => writeNode room fun room => do
    return (← left.textWithin room) ++ " " ++ r.symbol ++ " " ++ (← right.textWithin room)
  | both left right => writeNode room fun room => do
    return (← left.textWithin room) ++ " && " ++ (← right.textWithin room)
  | either left right => writeNode room fun room => do
    return (← left.textWithin room) ++ " || " ++ (← right.textWithin room)
  | negation e => writeNode room fun room => return "!" ++ (← e.textWithin room)
  | group e => writeNode room fun room => return "(" ++ (← e.textWithin room) ++ ")"

/-- Writes out a condition. -/
def print (e : Expr) : Except TooDeep String := e.textWithin textLimit

/-- The greatest count of negations and groups around a node of the expression. -/
def nesting : Expr → Nat
  | literal _ | path _ => 0
  | compare _ left right | both left right | either left right => max left.nesting right.nesting
  | negation e | group e => e.nesting + 1

/-- The paths that a condition reads. -/
def paths : Expr → List String
  | literal _ => []
  | path name => [name]
  | compare _ left right | both left right | either left right => left.paths ++ right.paths
  | negation e | group e => e.paths

end Expr

end Stencil.Condition
