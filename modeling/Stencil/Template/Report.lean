import Stencil.Condition.Reader
import Stencil.Template.Fields

/-!
# Reports on a template

What a template asks for, as data for other programs, and the list of its problems for its author.
-/

namespace Stencil.Template

/-- A list of texts. -/
def textList (items : List String) : Value := .list (items.map .text)

/-- A count. -/
def count (n : Nat) : Value := .int n

/-- The report on a loop. -/
def reportLoop (t : Template) (head : LoopHead) : Value :=
  .object [("elementAlias", .text head.item), ("collectionName", .text head.collection),
    ("fields", textList (t.fieldsOf head.item)), ("sourceStart", count head.start),
    ("sourceEnd", count head.stop)]

/-- The report on a conditional. -/
def reportConditional (head : ConditionalHead) : Value :=
  .object [("expression", .text head.expression), ("sourceStart", count head.start),
    ("sourceEnd", count head.stop)]

/-- The report on a nesting problem. -/
def reportProblem (d : Diagnostic) : Value :=
  .object [("message", .text d.message), ("line", count d.place.line),
    ("column", count d.place.column)]

/-- What a template asks for. -/
def report (t : Template) : Value :=
  .object [("variables", textList t.outline.names),
    ("topLevelVariables", textList t.topLevelNames),
    ("defaults", .object (t.defaults.map fun (name, text) => (name, .text text))),
    ("loops", .list (t.outline.loops.map t.reportLoop)),
    ("conditionals", .list (t.outline.conditionals.map reportConditional)),
    ("diagnostics", .list (t.problems.map reportProblem))]

/-- The line on a conditional whose condition breaks the grammar, by what a reader gives for the
condition; the other ones have none. -/
def conditionProblem? (t : Template) (head : ConditionalHead) :
    Except Condition.ParseFailure Condition.Expr → Except Overlong (Option String)
  | .ok _ => .ok none
  | .error (.malformed error) =>
    let (line, column) := Text.lineColumn t.body.toList head.start
    .ok (some (toString line ++ ":" ++ toString column ++ ": invalid condition " ++
      Text.quote head.expression ++ ": " ++ error.problem.message))
  | .error .overlong => .error .overlong

/-- The lines on all of the given conditionals that break the grammar. One reader reads them all,
and goes on with the next one in whatever state the last one left it. -/
def conditionProblems (t : Template) (r : Condition.Reader) :
    List ConditionalHead → Except Overlong (List String)
  | [] => .ok []
  | head :: rest => do
    let line ← t.conditionProblem? head (r.parse head.expression)
    let lines ← t.conditionProblems (r.after head.expression) rest
    return line.toList ++ lines

/-- All problems of a template, a line for each: those of its nesting, then those of its
conditions. -/
def check (t : Template) : Except Overlong (List String) := do
  let lines ← t.conditionProblems .fresh t.outline.conditionals
  return t.problems.map Diagnostic.toText ++ lines

end Stencil.Template
