import Stencil.Template.Basic
import Stencil.Value.Path

/-!
# The values a template asks for

Which names of a template are filled from the data and which from the items of its loops, the blank
data to begin with, and which names are still without a value or fall back on a default.
-/

namespace Stencil.Template

/-- The names that no loop binds, in the order of first occurrence. -/
def topLevelNames (t : Template) : List String :=
  t.outline.names.filter fun name => !t.outline.items.contains (firstSegment name)

/-- What the template reads of the items bound to a name: the paths after the name and a dot. -/
def fieldsOf (t : Template) (item : String) : List String :=
  distinct (t.outline.names.filterMap fun name =>
    (Text.afterPrefix? (item.toList ++ ['.']) name.toList).map String.ofList)

/-- The default of a name, or nothing. -/
def defaultText (t : Template) (name : String) : String := (t.defaults.get? name).getD ""

/-- An item with all the fields that the template reads of it, all blank. -/
def blankItem (t : Template) (item : String) : Value :=
  .object (Entries.ofPairs ((t.fieldsOf item).map fun field => (field, .text "")))

/-- Adds a list of one blank item for a loop, unless the collection is there. -/
def addCollection (t : Template) (data : Entries Value) (head : LoopHead) : Entries Value :=
  match data.get? head.collection with
  | some _ => data
  | none => data.put head.collection (.list [t.blankItem head.item])

/-- The data to begin with: every top-level name has its default, or a blank text, and every loop
has a list of one blank item. -/
def blankData (t : Template) : Entries Value :=
  t.outline.loops.foldl t.addCollection
    (t.topLevelNames.foldl (fun data name => Value.assign data name (.text (t.defaultText name)))
      [])

/-- Whether a name is not in the data but has a default that is not blank. -/
def fallsBack (t : Template) (data : Value) (name : String) : Bool :=
  data.resolve name matches .undefined && t.defaultText name != ""

/-- Whether a value has a text that is not blank. -/
def hasText (value : Value) : Except Overlong Bool := value.text?.map (· != "")

/-- The top-level names whose value is a default. -/
def defaultedNames (t : Template) (data : Value) : List String :=
  t.topLevelNames.filter (t.fallsBack data)

/-- Of the given names, those that have a text neither in the data nor in the defaults. -/
def missingAmong (t : Template) (data : Value) : List String → Except Overlong (List String)
  | [] => .ok []
  | name :: rest => do
    let present ← hasText (data.resolve name)
    let missing ← t.missingAmong data rest
    return if present || t.fallsBack data name then missing else name :: missing

/-- The top-level names that have a text neither in the data nor in the defaults. -/
def missingNames (t : Template) (data : Value) : Except Overlong (List String) :=
  t.missingAmong data t.topLevelNames

/-! ## Adding a defaults block -/

/-- The line of a defaults block that gives a name a blank text. -/
def blankLine (name : String) : String := name ++ ": "

/-- A defaults block with a blank text for each name. -/
def blankBlock (names : List String) : String :=
  String.intercalate "\n" (String.ofList Defaults.openingMarker ::
    (names.map blankLine ++ [String.ofList Defaults.closingMarker]))

/-- Puts a defaults block for all top-level names before a template, unless it has a block or no
such names. -/
def scaffold (source : String) : String :=
  match Defaults.Block.find? source.toList with
  | some _ => source
  | none =>
    match (parse source).topLevelNames with
    | [] => source
    | names => blankBlock names ++ "\n\n" ++ source

/-- What is reported when a template gets a defaults block. -/
def scaffoldNotes (source : String) : List Note :=
  Defaults.findNotes source.toList ++
    match Defaults.Block.find? source.toList with
    | some _ => []
    | none => parseNotes source

end Stencil.Template
