import Stencil.Template.Outline

/-!
# The block tree of a template

Loops and conditionals nest. A closing directive ends the nearest open block of its kind. Markers
that do not fit are problems: a closing directive that no open block waits for, a block that is open
when one around it ends, and a block that is open at the end of the template. Each such marker is
text, and what stood in the block belongs to the block around it.

`Tree.ofTokens` reads on after a problem and records it; `Tree.ofTokensStrict` ends at the first
one.
-/

namespace Stencil.Template

/-- A node of the block tree. Variables, loops and conditionals have the offset of their marker. -/
inductive Node where
  | text (content : String)
  | placeholder (name : String) (offset : Nat)
  | loop (item collection : String) (offset : Nat) (body : List Node)
  | conditional (expression : String) (offset : Nat) (body : List Node)
deriving Repr, Inhabited

namespace Node

/-- The block with the given head. -/
def block (offset : Nat) (body : List Node) : Head → Node
  | .loop item collection => loop item collection offset body
  | .conditional expression => conditional expression offset body

end Node

/-- What is wrong with a marker. -/
inductive NestingProblem where
  | stray (kind : BlockKind)
  | crossed (inner outer : BlockKind)
  | unclosed (kind : BlockKind)
deriving Repr, DecidableEq

/-- A marker that does not fit, by its place. -/
structure Diagnostic where
  problem : NestingProblem
  place : Place
deriving Repr, DecidableEq

namespace Diagnostic

/-- The wording of the problem. -/
def message (d : Diagnostic) : String :=
  match d.problem with
  | .stray kind => "Unexpected '" ++ kind.closing ++ "' without matching '" ++ kind.opening ++ "'"
  | .crossed inner outer =>
    "'" ++ inner.opening ++ "' block crosses the end of '" ++ outer.opening ++ "' block"
  | .unclosed kind => "Unclosed '" ++ kind.opening ++ "' block"

/-- The problem after its place. -/
def toText (d : Diagnostic) : String := d.place.toText ++ ": " ++ d.message

/-- The message of a strict reading that ended here. -/
def errorMessage (d : Diagnostic) : String := d.message ++ " at " ++ d.place.toText

end Diagnostic

/-- An open block: its marker, its head, and the nodes before it in the body it stands in, the last
one first. -/
structure OpenBlock where
  token : Token
  head : Head
  before : List Node
deriving Repr

/-- A block tree that is being built: the nodes of the innermost open body, the last one first, the
open blocks, the innermost first, and the problems found, the last one first. -/
structure Builder where
  body : List Node
  stack : List OpenBlock
  problems : List Diagnostic
deriving Repr

namespace Builder

/-- Nothing is read. -/
def start : Builder := ⟨[], [], []⟩

/-- Adds a node to the innermost open body. -/
def add (b : Builder) (node : Node) : Builder := ⟨node :: b.body, b.stack, b.problems⟩

/-- Opens a block. -/
def enter (b : Builder) (token : Token) (head : Head) : Builder :=
  ⟨[], ⟨token, head, b.body⟩ :: b.stack, b.problems⟩

/-- Records a problem. -/
def report (b : Builder) (d : Diagnostic) : Builder := ⟨b.body, b.stack, d :: b.problems⟩

/-- Turns the marker of the innermost open block into text, and its body into nodes of the body
around it. -/
def degrade (b : Builder) : Builder :=
  match b.stack with
  | [] => b
  | top :: rest => ⟨b.body ++ .text top.token.raw :: top.before, rest, b.problems⟩

/-- Whether a block of the kind is open. -/
def hasOpen (b : Builder) (kind : BlockKind) : Bool := b.stack.any (·.head.kind = kind)

/-- Ends the innermost open block. -/
def closeTop (b : Builder) : Builder :=
  match b.stack with
  | [] => b
  | top :: rest =>
    ⟨.block top.token.offset b.body.reverse top.head :: top.before, rest, b.problems⟩

/-- Ends the nearest of the given open blocks that is of the kind; those inside it are problems. -/
def closeNearest (kind : BlockKind) (b : Builder) : List OpenBlock → Builder
  | [] => b
  | top :: rest =>
    if top.head.kind = kind then b.closeTop
    else closeNearest kind (b.report ⟨.crossed top.head.kind kind, top.token.place⟩).degrade rest

/-- Reads a closing directive. -/
def close (b : Builder) (token : Token) (kind : BlockKind) : Builder :=
  if b.hasOpen kind then b.closeNearest kind b.stack
  else (b.report ⟨.stray kind, token.place⟩).add (.text token.raw)

/-- Reads a token. -/
def read (b : Builder) (token : Token) : Builder :=
  match token.shape with
  | .placeholder => b.add (.placeholder token.value token.offset)
  | .directive =>
    match Directive.classify token.value with
    | some (.opening head) => b.enter token head
    | some (.closing kind) => b.close token kind
    | none => b.add (.text token.raw)
  | _ => b.add (.text token.value)

/-- Ends the reading: the given open blocks are problems. -/
def unwind (b : Builder) : List OpenBlock → Builder
  | [] => b
  | top :: rest => unwind (b.report ⟨.unclosed top.head.kind, top.token.place⟩).degrade rest

/-- Reads a closing directive that has to end the innermost open block. -/
def closeStrict (b : Builder) (token : Token) (kind : BlockKind) : Except Diagnostic Builder :=
  match b.stack with
  | [] => .error ⟨.stray kind, token.place⟩
  | top :: _ =>
    if top.head.kind = kind then .ok b.closeTop
    else if b.hasOpen kind then .error ⟨.crossed top.head.kind kind, top.token.place⟩
    else .error ⟨.stray kind, token.place⟩

/-- Reads a token that has to fit. -/
def readStrict (b : Builder) (token : Token) : Except Diagnostic Builder :=
  match token.directive? with
  | some (.closing kind) => b.closeStrict token kind
  | _ => .ok (b.read token)

/-- Ends a reading in which no block may be open any more. -/
def finishStrict (b : Builder) : Except Diagnostic (List Node) :=
  match b.stack with
  | [] => .ok b.body.reverse
  | top :: _ => .error ⟨.unclosed top.head.kind, top.token.place⟩

end Builder

/-- The nodes of a template, and the problems of its nesting in the order they were found. -/
structure Tree where
  nodes : List Node
  problems : List Diagnostic
deriving Repr, Inhabited

namespace Tree

/-- The block tree of a list of tokens. -/
def ofTokens (ts : List Token) : Tree :=
  let b := ts.foldl Builder.read .start
  let b := b.unwind b.stack
  ⟨b.body.reverse, b.problems.reverse⟩

/-- The nodes of a list of tokens, or its first nesting problem. -/
def ofTokensStrict (ts : List Token) : Except Diagnostic (List Node) := do
  let b ← ts.foldlM Builder.readStrict .start
  b.finishStrict

end Tree

end Stencil.Template
