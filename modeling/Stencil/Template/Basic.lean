import Stencil.Template.Block
import Stencil.Template.Defaults

/-!
# Templates

A template that has been read: its default values, the text that remains without them, its outline
and its block tree.
-/

namespace Stencil

/-- A template that has been read. -/
structure Template where
  defaults : Template.Defaults
  /-- The text without the defaults block; all offsets are offsets in it. -/
  body : String
  outline : Template.Outline
  nodes : List Template.Node
  problems : List Template.Diagnostic
deriving Repr

namespace Template

/-- Reads a template. Nesting problems are recorded. -/
def parse (source : String) : Template :=
  let (defaults, body) := Defaults.extract source
  let tokens := (tokenize body).tokens
  let tree := Tree.ofTokens tokens
  ⟨defaults, body, .ofTokens tokens, tree.nodes, tree.problems⟩

/-- Reads a template that may not have a nesting problem, and ends at the first one. -/
def parseStrict (source : String) : Except Diagnostic Template := do
  let (defaults, body) := Defaults.extract source
  let tokens := (tokenize body).tokens
  let nodes ← Tree.ofTokensStrict tokens
  return ⟨defaults, body, .ofTokens tokens, nodes, []⟩

/-- Reads a template, strictly or not. -/
def parseWith (strict : Bool) (source : String) : Except Diagnostic Template :=
  if strict then parseStrict source else .ok (parse source)

/-- What is reported while a template is cut into tokens. -/
def scanNotes (source : String) : List Note :=
  Defaults.extractNotes source ++
    (tokenize (Defaults.extract source).2).tokens.filterMap Token.note?

/-- What is reported of a nesting problem. -/
def problemNote (d : Diagnostic) : Note := .debug ("Template nesting problem: " ++ d.toText)

/-- What is reported when a template has been read. -/
def summaryNote (t : Template) : Note :=
  .debug ("Parsed template: " ++ toString t.outline.names.length ++ " variables, " ++
    toString t.outline.loops.length ++ " loops, " ++
    toString t.outline.conditionals.length ++ " conditionals, " ++
    toString t.problems.length ++ " diagnostics")

/-- All that is reported when a template is read. -/
def parseNotes (source : String) : List Note :=
  let t := parse source
  scanNotes source ++ t.problems.map problemNote ++ [t.summaryNote]

/-- The template with its default values, or without them. -/
def withDefaults (t : Template) (keep : Bool) : Template :=
  ⟨if keep then t.defaults else [], t.body, t.outline, t.nodes, t.problems⟩

end Template

end Stencil
