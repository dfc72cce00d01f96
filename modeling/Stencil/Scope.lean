import Stencil.Value.Path

/-!
# Scopes

Where a template's paths are looked up: the items that loops have bound, then the data, then the
default texts. A default stands for the whole path of its name; the other two are read segment by
segment.
-/

namespace Stencil

/-- What the paths of a template refer to. -/
structure Scope where
  data : Value
  defaults : Entries String
  bindings : Entries Value
deriving Repr

namespace Scope

/-- The scope outside all loops. -/
def root (data : Value) (defaults : Entries String) : Scope := ⟨data, defaults, []⟩

/-- The scope of one turn of a loop. The new binding hides an outer one of the same name. -/
def bind (s : Scope) (item : String) (element : Value) : Scope :=
  ⟨s.data, s.defaults, s.bindings.put item element⟩

/-- What follows the first dot of a path. -/
def afterFirstSegment (path : String) : String :=
  String.ofList ((path.toList.dropWhile (· != '.')).drop 1)

/-- The value of a path that no loop has bound: that of the data, else the default. -/
def lookupOutside (s : Scope) (path : String) : Value :=
  match s.data.resolve path with
  | .undefined =>
    match s.defaults.get? path with
    | some text => .text text
    | none => .undefined
  | value => value

/-- The value of a path. When its first segment is bound, only the bound element is looked at. -/
def lookup (s : Scope) (path : String) : Value :=
  match s.bindings.get? (firstSegment path) with
  | some element =>
    let rest := afterFirstSegment path
    if rest = "" then element else element.resolve rest
  | none => s.lookupOutside path

/-- What a placeholder with the path is replaced by. -/
def lookupText (s : Scope) (path : String) : Except Overlong String := (s.lookup path).text?

/-- The names that loops have bound. -/
def boundNames (s : Scope) : List String := s.bindings.keys

end Scope

end Stencil
