import Stencil.Condition.Expr
import Stencil.Condition.Token

/-!
# The condition parser

Conditions are read token by token, without going back. Binary operators bind, from the loosest to
the tightest: `||`, `&&`, then `==` and `!=`, then the four order operators; negation binds tighter
than all of them. `||` and `&&` group to the left; an operand of theirs holds at most one equality,
and a side of an equality at most one order operator.

What has been read at any moment is a `Level`, the unfinished expression between two parentheses,
and the levels around it. A level holds one unfinished operand for each kind of operator. So there
is no recursion but the one on the list of tokens.
-/

namespace Stencil.Condition

/-- What is wrong with a condition. -/
inductive SyntaxProblem where
  | strayCharacter (c : Char)
  | empty
  | unexpected (token : String)
  | unclosed
  | unfinished
  | tooNested
deriving Repr, DecidableEq

/-- The deepest nesting of negations and parentheses. -/
def nestingLimit : Nat := 64

/-- The wording of a syntax problem. -/
def SyntaxProblem.message : SyntaxProblem → String
  | strayCharacter c => "Unexpected character '" ++ c.toString ++ "'"
  | empty => "Empty condition"
  | unexpected token => "Unexpected token '" ++ token ++ "'"
  | unclosed => "Expected ')' after grouped expression"
  | unfinished => "Unexpected end of expression"
  | tooNested => "Expression nested deeper than " ++ toString nestingLimit ++ " levels"

/-- A syntax problem and the offset it is reported at. -/
structure SyntaxError where
  problem : SyntaxProblem
  offset : Nat
deriving Repr, DecidableEq

/-- The message of a syntax error. -/
def SyntaxError.message (e : SyntaxError) : String :=
  "Parse error at position " ++ toString e.offset ++ ": " ++ e.problem.message

/-- How reading a condition fails: by a syntax error, or on an integer of too many digits. -/
inductive ParseFailure where
  | malformed (error : SyntaxError)
  | overlong
deriving Repr, DecidableEq

/-- An unfinished expression: the left operands that wait for their right ones, from the loosest
operator to the tightest, and the count of negations before the operand to come. -/
structure Level where
  either : Option Expr
  both : Option Expr
  equality : Option (Relation × Expr)
  order : Option (Relation × Expr)
  negations : Nat
deriving Repr, DecidableEq

namespace Level

/-- The level of an expression of which nothing is read. -/
def start : Level := ⟨none, none, none, none, 0⟩

/-- Puts negations before an expression. -/
def negate : Nat → Expr → Expr
  | 0, e => e
  | n + 1, e => .negation (negate n e)

/-- Joins the left operand that waits for a relation, if there is one, to the right operand. -/
def joinRelation : Option (Relation × Expr) → Expr → Expr
  | some (r, left), right => .compare r left right
  | none, e => e

/-- Joins the left operand that waits for a logical operator, if there is one, to the right
operand. -/
def joinLogical (operator : Expr → Expr → Expr) : Option Expr → Expr → Expr
  | some left, right => operator left right
  | none, e => e

/-- The operand of an order operator that ends with `operand`. -/
def unary (level : Level) (operand : Expr) : Expr := negate level.negations operand

/-- The operand of an equality that ends with `operand`. -/
def relational (level : Level) (operand : Expr) : Expr :=
  joinRelation level.order (level.unary operand)

/-- The operand of `&&` that ends with `operand`. -/
def comparison (level : Level) (operand : Expr) : Expr :=
  joinRelation level.equality (level.relational operand)

/-- The operand of `||` that ends with `operand`. -/
def conjunction (level : Level) (operand : Expr) : Expr :=
  joinLogical .both level.both (level.comparison operand)

/-- The whole expression that ends with `operand`. -/
def disjunction (level : Level) (operand : Expr) : Expr :=
  joinLogical .either level.either (level.conjunction operand)

/-- The level after `operand` and a binary operator, if the operator may stand there. -/
def operator? (level : Level) (operand : Expr) : Token → Option Level
  | .or => some ⟨some (level.disjunction operand), none, none, none, 0⟩
  | .and => some ⟨level.either, some (level.conjunction operand), none, none, 0⟩
  | .relation r =>
    if r.isEquality then
      if level.equality.isNone then
        some ⟨level.either, level.both, some (r, level.relational operand), none, 0⟩
      else none
    else if level.order.isNone then
      some ⟨level.either, level.both, level.equality, some (r, level.unary operand), 0⟩
    else none
  | _ => none

/-- After an operator no negation is read yet. -/
theorem negations_operator? (level next : Level) (operand : Expr) (t : Token)
    (h : level.operator? operand t = some next) : next.negations = 0 := by
  unfold operator? at h
  split at h
  · cases h; rfl
  · cases h; rfl
  · split at h
    · split at h
      · cases h; rfl
      · cases h
    · split at h
      · cases h; rfl
      · cases h
  · cases h

end Level

/-- The literal or the path that a token stands for. -/
def operand? : Token → Option (Except Overlong Expr)
  | .string s => some (.ok (.literal (.text s)))
  | .number numeral => some (numeral.toNumber.map fun n => .literal (.number n))
  | .keyword .true => some (.ok (.literal (.bool true)))
  | .keyword .false => some (.ok (.literal (.bool false)))
  | .keyword .null => some (.ok (.literal .null))
  | .keyword .undefined => some (.ok (.literal .undefined))
  | .path name => some (.ok (.path name))
  | _ => none

/-- How much nesting the levels around use up: their negations, and a parenthesis for each. -/
def used : List Level → Nat
  | [] => 0
  | level :: around => level.negations + used around + 1

/-- What has been read: the level being read, and the levels around it, the innermost first. -/
structure Open where
  level : Level
  around : List Level
deriving Repr, DecidableEq

namespace Open

/-- Nothing is read. -/
def start : Open := ⟨.start, []⟩

/-- How many negations and parentheses are around the operand to come. -/
def depth (o : Open) : Nat := o.level.negations + used o.around

/-- After one more negation. -/
def negate (o : Open) : Open := ⟨⟨o.level.either, o.level.both, o.level.equality, o.level.order,
  o.level.negations + 1⟩, o.around⟩

/-- After an opening parenthesis. -/
def enter (o : Open) : Open := ⟨.start, o.level :: o.around⟩

end Open

/-- The offset of the first token, or the end of the text. -/
def offsetOf (stop : Nat) : List Located → Nat
  | [] => stop
  | t :: _ => t.offset

/-- A syntax error as a failure. -/
def fail {α : Type} (problem : SyntaxProblem) (offset : Nat) : Except ParseFailure α :=
  .error (.malformed ⟨problem, offset⟩)

mutual

/-- Reads on where an operand has to come. It stands under at most `limit` negations and
parentheses. -/
def readOperand (limit stop : Nat) (o : Open) : List Located → Except ParseFailure Expr
  | [] => fail .unfinished stop
  | t :: rest =>
    match t.token with
    | .not =>
      if o.depth < limit then readOperand limit stop o.negate rest
      else fail .tooNested (offsetOf stop rest)
    | .opening =>
      if o.depth < limit then readOperand limit stop o.enter rest
      else fail .tooNested (offsetOf stop rest)
    | token =>
      match operand? token with
      | some (.ok operand) => readOperator limit stop o operand rest
      | some (.error _) => .error .overlong
      | none => fail (.unexpected token.text) t.offset

/-- Reads on after an operand. -/
def readOperator (limit stop : Nat) (o : Open) (operand : Expr) :
    List Located → Except ParseFailure Expr
  | [] =>
    match o.around with
    | [] => .ok (o.level.disjunction operand)
    | _ :: _ => fail .unclosed stop
  | t :: rest =>
    match o.level.operator? operand t.token with
    | some level => readOperand limit stop ⟨level, o.around⟩ rest
    | none =>
      match o.around with
      | [] => fail (.unexpected t.token.text) t.offset
      | outer :: around =>
        if t.token = .closing then
          readOperator limit stop ⟨outer, around⟩ (.group (o.level.disjunction operand)) rest
        else fail .unclosed t.offset

end

/-! ## Steps -/

section Steps

variable (limit stop : Nat) (o : Open) (p : Expr) (t : Located) (rest : List Located)

theorem readOperand_not (ht : t.token = .not) (hroom : o.depth < limit) :
    readOperand limit stop o (t :: rest) = readOperand limit stop o.negate rest := by
  rw [readOperand, ht]
  exact if_pos hroom

theorem readOperand_opening (ht : t.token = .opening) (hroom : o.depth < limit) :
    readOperand limit stop o (t :: rest) = readOperand limit stop o.enter rest := by
  rw [readOperand, ht]
  exact if_pos hroom

/-- A negation or a parenthesis too many. -/
theorem readOperand_tooNested (ht : t.token = .not ∨ t.token = .opening)
    (hroom : ¬ o.depth < limit) :
    readOperand limit stop o (t :: rest) = fail .tooNested (offsetOf stop rest) := by
  rw [readOperand]
  rcases ht with ht | ht
  · rw [ht]
    exact if_neg hroom
  · rw [ht]
    exact if_neg hroom

/-- A token that is no negation and no opening parenthesis is an operand or none. -/
theorem readOperand_primary (hnot : t.token ≠ .not) (hopening : t.token ≠ .opening) :
    readOperand limit stop o (t :: rest) =
      match operand? t.token with
      | some (.ok operand) => readOperator limit stop o operand rest
      | some (.error _) => .error .overlong
      | none => fail (.unexpected t.token.text) t.offset := by
  rw [readOperand]
  split
  · next ht => exact absurd ht hnot
  · next ht => exact absurd ht hopening
  · rfl

theorem readOperand_operand (hop : operand? t.token = some (.ok p)) :
    readOperand limit stop o (t :: rest) = readOperator limit stop o p rest := by
  -- `!` and `(` are no operands
  have hne : ∀ token, operand? token = none → t.token ≠ token := by
    rintro token hnone rfl
    rw [hnone] at hop
    cases hop
  rw [readOperand_primary limit stop o t rest (hne .not rfl) (hne .opening rfl), hop]

/-- A token with which no operand begins. -/
theorem readOperand_other (hnot : t.token ≠ .not) (hopening : t.token ≠ .opening)
    (hop : operand? t.token = none) :
    readOperand limit stop o (t :: rest) = fail (.unexpected t.token.text) t.offset := by
  rw [readOperand_primary limit stop o t rest hnot hopening, hop]

theorem readOperator_operator (level : Level) (hop : o.level.operator? p t.token = some level) :
    readOperator limit stop o p (t :: rest) = readOperand limit stop ⟨level, o.around⟩ rest := by
  rw [readOperator, hop]

theorem readOperator_closing (outer : Level) (around : List Level)
    (hop : o.level.operator? p t.token = none) (ho : o.around = outer :: around)
    (ht : t.token = .closing) :
    readOperator limit stop o p (t :: rest) =
      readOperator limit stop ⟨outer, around⟩ (.group (o.level.disjunction p)) rest := by
  rw [readOperator, hop, ho]
  exact if_pos ht

/-- Outside all parentheses, a token with which the condition does not go on. -/
theorem readOperator_unexpected (hop : o.level.operator? p t.token = none)
    (ho : o.around = []) :
    readOperator limit stop o p (t :: rest) = fail (.unexpected t.token.text) t.offset := by
  rw [readOperator, hop, ho]

/-- Inside a parenthesis, a token with which the condition does not go on. -/
theorem readOperator_unclosed (outer : Level) (around : List Level)
    (hop : o.level.operator? p t.token = none) (ho : o.around = outer :: around)
    (ht : t.token ≠ .closing) :
    readOperator limit stop o p (t :: rest) = fail .unclosed t.offset := by
  rw [readOperator, hop, ho]
  exact if_neg ht

/-- A token with which the condition does not go on, outside all parentheses and inside. -/
theorem readOperator_other (hop : o.level.operator? p t.token = none)
    (ht : o.around = [] ∨ t.token ≠ .closing) :
    ∃ problem, readOperator limit stop o p (t :: rest) = fail problem t.offset := by
  cases ho : o.around with
  | nil => exact ⟨_, readOperator_unexpected limit stop o p t rest hop ho⟩
  | cons outer around =>
    have hclosing : t.token ≠ .closing := ht.resolve_left (by rw [ho]; exact List.cons_ne_nil _ _)
    exact ⟨_, readOperator_unclosed limit stop o p t rest outer around hop ho hclosing⟩

end Steps

/-- The expression that a list of tokens spells. -/
def parseTokens (ts : Tokens) : Except ParseFailure Expr :=
  if ts.tokens.isEmpty then fail .empty 0 else readOperand nestingLimit ts.stop .start ts.tokens

/-- The expression that a text spells. There is no state in this but the text; a `Reader`, which may
have read other texts before, gives the same (`Reader.parse_eq`). -/
def parse (text : String) : Except ParseFailure Expr :=
  match tokenize text with
  | .ok ts => parseTokens ts
  | .error stray => fail (.strayCharacter stray.character) stray.offset

end Stencil.Condition
