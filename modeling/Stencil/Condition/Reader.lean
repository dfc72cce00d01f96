import Stencil.Condition.Parser

/-!
# The reader of conditions

A reader is used for one text after another. It holds the tokens of the text that it is on, the
position of the token to come, and how many negations and parentheses that token is under. Each
reading begins by setting the position and the depth back: a text that breaks the grammar leaves
them where the reading broke off, and a text without tokens leaves all as it was.

`Condition.parse` says what a text spells, without a reader.
-/

namespace Stencil.Condition

/-- What reads conditions. -/
structure Reader where
  tokens : Tokens
  position : Nat
  depth : Nat
deriving Repr, DecidableEq

/-- Steps of a reader. What was done before a step that fails stays done. -/
abbrev ReaderM := EStateM ParseFailure Reader

namespace Reader

/-- A reader that has read nothing. -/
def fresh : Reader := ⟨⟨[], 0⟩, 0, 0⟩

/-- The tokens to come. -/
def rest (r : Reader) : List Located := r.tokens.tokens.drop r.position

/-- The offset of the token to come, or the end of the text. -/
def offset (r : Reader) : Nat := offsetOf r.tokens.stop r.rest

/-- Fails with a syntax error at the offset. -/
def failAt {α : Type} (problem : SyntaxProblem) (offset : Nat) : ReaderM α :=
  throw (.malformed ⟨problem, offset⟩)

/-- Fails with a syntax error at the token to come. -/
def failHere {α : Type} (problem : SyntaxProblem) : ReaderM α := do
  failAt problem (← get).offset

/-- Goes on to the next token. -/
def advance : ReaderM Unit := modify fun r => ⟨r.tokens, r.position + 1, r.depth⟩

/-- Goes into a negation or a parenthesis. The depth counts it even if it is one too many. -/
def descend : ReaderM Unit := do
  modify fun r => ⟨r.tokens, r.position, r.depth + 1⟩
  if nestingLimit < (← get).depth then failHere .tooNested

/-- Comes back out of so many negations and parentheses. -/
def ascend (count : Nat) : ReaderM Unit :=
  modify fun r => ⟨r.tokens, r.position, r.depth - count⟩

mutual

/-- Reads on where an operand has to come. The list is that of the tokens to come. -/
def readOperand (o : Open) : List Located → ReaderM Expr
  | [] => failHere .unfinished
  | t :: rest =>
    match t.token with
    | .not => do
      advance
      descend
      readOperand o.negate rest
    | .opening => do
      advance
      descend
      readOperand o.enter rest
    | token =>
      match operand? token with
      | some (.ok operand) => do
        advance
        ascend o.level.negations
        readOperator o operand rest
      | some (.error _) => do
        advance
        throw .overlong
      | none => failHere (.unexpected token.text)

/-- Reads on after an operand, out of the negations before it. -/
def readOperator (o : Open) (operand : Expr) : List Located → ReaderM Expr
  | [] =>
    match o.around with
    | [] => return o.level.disjunction operand
    | _ :: _ => do
      ascend 1
      failHere .unclosed
  | t :: rest =>
    match o.level.operator? operand t.token with
    | some level => do
      advance
      readOperand ⟨level, o.around⟩ rest
    | none =>
      match o.around with
      | [] => failHere (.unexpected t.token.text)
      | outer :: around => do
        -- the parenthesis is left before it is known to be closed
        ascend 1
        if t.token = .closing then
          advance
          ascend outer.negations
          readOperator ⟨outer, around⟩ (.group (o.level.disjunction operand)) rest
        else failHere .unclosed

end

/-- Reads a text. -/
def read (text : String) : ReaderM Expr :=
  match tokenize text with
  | .error stray => failAt (.strayCharacter stray.character) stray.offset
  | .ok ts => do
    set (Reader.mk ts 0 0)
    if ts.tokens.isEmpty then failAt .empty 0
    else readOperand .start (← get).rest

/-- What steps give, whatever reader they leave behind. -/
def result {α : Type} : EStateM.Result ParseFailure Reader α → Except ParseFailure α
  | .ok a _ => .ok a
  | .error failure _ => .error failure

/-- The reader that steps leave behind, whatever they give. -/
def left {α : Type} : EStateM.Result ParseFailure Reader α → Reader
  | .ok _ r => r
  | .error _ r => r

/-- What a reader gives for a text. -/
def parse (r : Reader) (text : String) : Except ParseFailure Expr := result ((read text).run r)

/-- The reader after a text. -/
def after (r : Reader) (text : String) : Reader := left ((read text).run r)

end Reader

end Stencil.Condition
