import Stencil.Entries
import Stencil.Note
import Stencil.Text.Blank
import Stencil.Text.Line
import Stencil.Text.Quoted
import Stencil.Text.Search

/-!
# The defaults block

A template may hold one block of default values, between `{% defaults %}` and `{% enddefaults %}`.
Each line of it is a comment, or a name, a colon and a text. Only the first block counts; without a
closing marker there is none.
-/

namespace Stencil.Template

/-- Default texts by name. -/
abbrev Defaults := Entries String

namespace Defaults

/-- The marker that opens the block. -/
def openingMarker : List Char := "\x7b% defaults %\x7d".toList

/-- The marker that closes the block. -/
def closingMarker : List Char := "\x7b% enddefaults %\x7d".toList

/-! ## Lines -/

/-- Takes a text out of its quotes, if it begins and ends with the same quote. -/
def unquote (s : List Char) : List Char :=
  match s with
  | c :: d :: rest =>
    if (c = '\'' || c = '"') && (d :: rest).getLast? = some c then (d :: rest).dropLast else s
  | _ => s

/-- What a line of the block says. -/
inductive Line where
  | ignored
  | entry (name value : String)
  | nameless (line : String)
deriving Repr, DecidableEq

namespace Line

/-- Reads a line. -/
def read (line : List Char) : Line :=
  match Text.trim line with
  | [] => ignored
  | '#' :: _ => ignored
  | line =>
    match Text.cut? [':'] line with
    | none => nameless (String.ofList line)
    | some ([], _) => nameless (String.ofList line)
    | some (name, value) =>
      entry (String.ofList (Text.trim name)) (String.ofList (unquote (Text.trim value)))

/-- The entry of a line. -/
def entry? : Line → Option (String × String)
  | entry name value => some (name, value)
  | _ => none

/-- What is reported of a line. -/
def note? : Line → Option Note
  | nameless line => some (.debug ("Skipping defaults line without key: " ++ Text.quote line))
  | _ => none

end Line

/-- The lines of a block's body. -/
def readLines (body : List Char) : List Line := (Text.lines body).map Line.read

/-- The default values that a block's body sets; a name that comes again replaces the earlier
value. -/
def ofBody (body : List Char) : Defaults := .ofPairs ((readLines body).filterMap Line.entry?)

/-! ## The block -/

/-- A template cut at its defaults block. -/
structure Block where
  before : List Char
  inner : List Char
  after : List Char
deriving Repr, DecidableEq

namespace Block

/-- The first block of a template. -/
def find? (template : List Char) : Option Block := do
  let (before, rest) ← Text.cut? openingMarker template
  let (inner, after) ← Text.cut? closingMarker rest
  return ⟨before, inner, after⟩

/-- The offset of the first character. -/
def start (b : Block) : Nat := b.before.length

/-- The offset after the last character. -/
def stop (b : Block) : Nat :=
  b.before.length + openingMarker.length + b.inner.length + closingMarker.length

end Block

/-- What is reported when the block of a template is looked for. -/
def findNotes (template : List Char) : List Note :=
  match Text.cut? openingMarker template with
  | none => []
  | some (before, rest) =>
    match Text.cut? closingMarker rest with
    | some _ => []
    | none =>
      [.debug ("Defaults block at " ++ toString before.length ++
        " has no closing marker, left as text")]

/-- The default values of a template, and the template without its block. -/
def extract (template : String) : Defaults × String :=
  match Block.find? template.toList with
  | some block => (ofBody block.inner, String.ofList (block.before ++ block.after))
  | none => ([], template)

/-- What is reported when the defaults of a template are extracted. -/
def extractNotes (template : String) : List Note :=
  findNotes template.toList ++
    match Block.find? template.toList with
    | some block => (readLines block.inner).filterMap Line.note?
    | none => []

end Defaults

end Stencil.Template
