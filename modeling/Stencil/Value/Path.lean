import Stencil.Value.Basic
import Stencil.Text.Search

/-!
# Dotted paths

A path such as `site.mgmt.vlan` names a value inside nested objects. `resolve` reads along a path,
`assign` writes along it and makes the objects it needs, and `merge` lays one object over another.

A path is cut at every dot, so it may have empty segments; no path is without segments.

* `segments_ne_nil`: the last fact;
* `follow_append`: reading along two paths in turn.
-/

namespace Stencil

/-- The segments of a dotted path. -/
def segments (path : String) : List String := (Text.splitOn '.' path.toList).map String.ofList

/-- The first segment of a dotted path. -/
def firstSegment (path : String) : String := String.ofList (path.toList.takeWhile (· != '.'))

theorem segments_ne_nil (path : String) : segments path ≠ [] := by
  simp [segments, Text.splitOn, Text.splitWhere_ne_nil]

namespace Value

/-- The field of an object; other values have none. -/
def field? : Value → String → Option Value
  | object fields, name => Entries.get? fields name
  | _, _ => none

/-- Reads field after field, and `undefined` where one is missing. -/
def follow : Value → List String → Value
  | value, [] => value
  | value, name :: rest =>
    match value.field? name with
    | some inner => follow inner rest
    | none => undefined

/-- Reads along a dotted path. -/
def resolve (value : Value) (path : String) : Value := value.follow (segments path)

/-- The fields of an object; none for other values. -/
def fields : Value → Entries Value
  | object fields => fields
  | _ => []

/-- Writes a value below the fields of an object, segment by segment. What stands in the way and is
no object gives way to an empty one. -/
def assignAt (fields : Entries Value) : List String → Value → Entries Value
  | [], _ => fields
  | [name], value => fields.put name value
  | name :: next :: rest, value =>
    let inner := ((fields.get? name).getD undefined).fields
    fields.put name (object (assignAt inner (next :: rest) value))

/-- Writes a value along a dotted path. -/
def assign (data : Entries Value) (path : String) (value : Value) : Entries Value :=
  assignAt data (segments path) value

mutual

/-- Lays the fields of one object over those of another. Objects may stand in one another to any
depth here: each takes a call from a stack of a thousand, and that they run out is left out. -/
def mergeFields (base : Entries Value) : List (String × Value) → Entries Value
  | [] => base
  | (name, value) :: rest => mergeFields (base.put name (mergeInto (base.get? name) value)) rest

/-- Lays a value over the one that is there: object over object field by field, and anything else
in its place. -/
def mergeInto : Option Value → Value → Value
  | some (object below), object above => object (mergeFields below above)
  | _, value => value

end

theorem follow_append (value : Value) (p q : List String) :
    value.follow (p ++ q) = (value.follow p).follow q := by
  induction p generalizing value with
  | nil => rfl
  | cons name rest ih =>
    simp only [List.cons_append, follow]
    cases value.field? name with
    | some inner => exact ih inner
    | none => cases q <;> simp [follow, field?]

end Value

end Stencil
