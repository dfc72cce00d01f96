import Stencil.Template.Directive
import Stencil.Template.Token

/-!
# The outline of a template

What a template mentions, in the order of its text and without regard to which marker closes which:
its variables, the heads of its loops and conditionals, and the sequence of all these events.
-/

namespace Stencil.Template

/-- Something a template mentions, with the offset of its marker. -/
inductive Event where
  | text (content : String)
  | placeholder (name : String) (offset : Nat)
  | opening (head : Head) (offset : Nat)
  | closing (kind : BlockKind) (offset : Nat)
deriving Repr, DecidableEq

/-- The head of a loop and the span of its marker. -/
structure LoopHead where
  item : String
  collection : String
  start : Nat
  stop : Nat
deriving Repr, DecidableEq

/-- The head of a conditional and the span of its marker. -/
structure ConditionalHead where
  expression : String
  start : Nat
  stop : Nat
deriving Repr, DecidableEq

/-- What a template mentions. -/
structure Outline where
  /-- The names in placeholders, each once, in the order of first occurrence. -/
  names : List String
  loops : List LoopHead
  conditionals : List ConditionalHead
  events : List Event
deriving Repr, DecidableEq

/-- The elements of a list without those that came before. -/
def distinct : List String → List String
  | [] => []
  | x :: xs => x :: (distinct xs).filter (· != x)

namespace Token

/-- The directive that a token is. -/
def directive? (t : Token) : Option Directive :=
  match t.shape with
  | .directive => Directive.classify t.value
  | _ => none

/-- The name in a placeholder. -/
def placeholderName? (t : Token) : Option String :=
  match t.shape with
  | .placeholder => some t.value
  | _ => none

/-- The loop that a token opens. -/
def loopHead? (t : Token) : Option LoopHead :=
  match t.directive? with
  | some (.opening (.loop item collection)) => some ⟨item, collection, t.offset, t.stop⟩
  | _ => none

/-- The conditional that a token opens. -/
def conditionalHead? (t : Token) : Option ConditionalHead :=
  match t.directive? with
  | some (.opening (.conditional expression)) => some ⟨expression, t.offset, t.stop⟩
  | _ => none

/-- The event of a token; a directive that is none has no event. -/
def event? (t : Token) : Option Event :=
  match t.shape with
  | .placeholder => some (.placeholder t.value t.offset)
  | .directive =>
    match Directive.classify t.value with
    | some (.opening head) => some (.opening head t.offset)
    | some (.closing kind) => some (.closing kind t.offset)
    | none => none
  | _ => some (.text t.value)

end Token

namespace Outline

/-- The outline of a list of tokens. -/
def ofTokens (ts : List Token) : Outline where
  names := distinct (ts.filterMap Token.placeholderName?)
  loops := ts.filterMap Token.loopHead?
  conditionals := ts.filterMap Token.conditionalHead?
  events := ts.filterMap Token.event?

/-- The outline of a text. -/
def ofText (text : String) : Outline := ofTokens (tokenize text).tokens

/-- The names that loops bind. -/
def items (o : Outline) : List String := o.loops.map (·.item)

end Outline

end Stencil.Template
