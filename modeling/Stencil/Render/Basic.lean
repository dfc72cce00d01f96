import Stencil.Condition.Eval
import Stencil.Note
import Stencil.Scope
import Stencil.Template.Basic

/-!
# Rendering

Rendering walks the block tree: text is copied, a placeholder gives the text of its value, a loop
gives its body once for each item of a list, and a conditional gives its body if its condition
holds. A condition that cannot be read or evaluated does not hold, and a warning says so. An integer
of too many digits ends the rendering.

A condition is read once: the renderer remembers every expression it has read.
-/

namespace Stencil

namespace Condition

/-- What is reported of a condition that fails; of a numeral that is too long, nothing is. -/
def Failure.note? (text : String) : Failure → Option Note
  | malformed error =>
    some (.warning ("Condition evaluation failed for " ++ Text.quote text ++ ": " ++ error.message))
  | refused error =>
    some (.warning ("Condition evaluation failed for " ++ Text.quote text ++ ": " ++ error.message))
  | tooLong =>
    some (.warning ("Condition evaluation failed for " ++
      Text.quote (String.ofList (text.toList.take 80)) ++ ": expression is too long"))
  | overlong => none

end Condition

/-- A renderer at work: the text so far, the notes so far, the last one first, and the conditions
that it has read. -/
structure Renderer where
  text : String
  notes : List Note
  known : Entries Condition.Expr

/-- Steps of a renderer. What was done before a step that fails stays done. -/
abbrev RenderM := EStateM Overlong Renderer

namespace Renderer

/-- A renderer that has done nothing. -/
def start : Renderer := ⟨"", [], []⟩

/-- Adds to the text. -/
def emit (s : String) : RenderM Unit := modify fun r => ⟨r.text ++ s, r.notes, r.known⟩

/-- Adds a note. -/
def report (n : Note) : RenderM Unit := modify fun r => ⟨r.text, n :: r.notes, r.known⟩

/-- Remembers the expression that a text spells. -/
def remember (text : String) (e : Condition.Expr) : RenderM Unit :=
  modify fun r => ⟨r.text, r.notes, r.known.put text e⟩

/-- Makes a truth value of a condition's outcome. -/
def settle (text : String) : Except Condition.Failure Bool → RenderM Bool
  | .ok b => return b
  | .error failure =>
    match failure.note? text with
    | some n => do
      report n
      return false
    | none => throw .overlong

/-- Whether a condition holds in a scope. -/
def judge (scope : Scope) (text : String) : RenderM Bool := do
  match (← get).known.get? text with
  | some e => settle text (e.holds scope.lookup)
  | none =>
    match Condition.read text with
    | .error failure => settle text (.error failure)
    | .ok e => do
      remember text e
      settle text (e.holds scope.lookup)

/-- What is reported of a loop over something that is no list. -/
def notAList (collection : String) : Note :=
  .debug ("Collection " ++ Text.quote collection ++ " is not a list, loop skipped")

mutual

/-- Renders a node. -/
def renderNode (scope : Scope) : Template.Node → RenderM Unit
  | .text content => emit content
  | .placeholder name _ =>
    match scope.lookupText name with
    | .ok s => emit s
    | .error e => throw e
  | .loop item collection _ body =>
    match scope.lookup collection with
    | .list elements => elements.forM fun element => renderNodes (scope.bind item element) body
    | _ => report (notAList collection)
  | .conditional expression _ body => do
    if ← judge scope expression then renderNodes scope body

/-- Renders nodes one after another. Blocks may stand in one another to any depth here: each takes
calls from a stack of a thousand, and that they run out after some hundreds of blocks is left
out. -/
def renderNodes (scope : Scope) : List Template.Node → RenderM Unit
  | [] => return ()
  | node :: rest => do
    renderNode scope node
    renderNodes scope rest

end

end Renderer

/-- The outcome of a rendering: its text, and what was reported, in order. -/
structure Rendered where
  text : Except Overlong String
  notes : List Note
deriving Repr

namespace Rendered

/-- The texts of the warnings. -/
def warnings (r : Rendered) : List String :=
  (r.notes.filter (·.level = .warning)).map (·.message)

/-- The outcome of a renderer's steps. -/
def ofRun : EStateM.Result Overlong Renderer Unit → Rendered
  | .ok _ r => ⟨.ok r.text, r.notes.reverse⟩
  | .error e r => ⟨.error e, r.notes.reverse⟩

end Rendered

/-- Renders a block tree in a scope. -/
def renderIn (scope : Scope) (nodes : List Template.Node) : Rendered :=
  .ofRun ((Renderer.renderNodes scope nodes).run .start)

/-- Whether a condition holds in a scope, and what was reported. -/
def judgeIn (scope : Scope) (expression : String) : Except Overlong Bool × List Note :=
  match (Renderer.judge scope expression).run .start with
  | .ok b r => (.ok b, r.notes.reverse)
  | .error e r => (.error e, r.notes.reverse)

namespace Template

/-- Renders a template with data. -/
def render (t : Template) (useDefaults : Bool) (data : Value) : Rendered :=
  renderIn (.root data (t.withDefaults useDefaults).defaults) t.nodes

end Template

end Stencil
