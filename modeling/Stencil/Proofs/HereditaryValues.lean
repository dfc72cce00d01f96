import Stencil.Scope

/-!
# Properties of everything in a value

A path leads to a field of a field, and a loop goes through the items of a list. So a property that
passes from each value to its items and its fields (`Value.Hereditary`) holds of all that is read in
a scope if it holds of the data, of the default texts and of the bound elements (`Scope.All`), and
a loop over what is read binds nothing without the property.

## Key results

- `follow_of_hereditary`: what a path leads to.
- `lookup_of_all`: what is read in a scope.
- `bind_of_all`: the scope of one turn of a loop.
-/

namespace Stencil

namespace Value

/-- The property passes to the items of lists and to the fields of objects, and where a path leads
nowhere it holds, too. -/
structure Hereditary (P : Value → Prop) : Prop where
  undefined : P .undefined
  item : ∀ items, P (.list items) → ∀ v ∈ items, P v
  field : ∀ fields, P (.object fields) → ∀ name v, Entries.get? fields name = some v → P v

variable {P : Value → Prop}

/-- What a value leads to has the property. -/
theorem follow_of_hereditary (hP : Hereditary P) (value : Value) (h : P value)
    (names : List String) : P (value.follow names) := by
  induction names generalizing value with
  | nil => exact h
  | cons name rest ih =>
    rw [follow]
    cases hfield : value.field? name with
    | none => exact hP.undefined
    | some inner =>
      -- only objects have fields
      cases value with
      | object fields => exact ih inner (hP.field fields h name inner hfield)
      | _ => cases hfield

end Value

namespace Scope

/-- The data, the default texts and the bound elements have the property. -/
structure All (P : Value → Prop) (s : Scope) : Prop where
  data : P s.data
  defaults : ∀ name text, s.defaults.get? name = some text → P (.text text)
  bindings : ∀ name element, s.bindings.get? name = some element → P element

variable {P : Value → Prop}

/-- Binding an element with the property keeps it. -/
theorem bind_of_all (s : Scope) (h : s.All P) (item : String) (element : Value)
    (helement : P element) : (s.bind item element).All P := by
  refine ⟨h.data, h.defaults, fun name bound hget => ?_⟩
  by_cases hname : name = item
  · subst hname
    rw [bind, Entries.get?_put_self] at hget
    cases hget
    exact helement
  · rw [bind, Entries.get?_put_of_ne _ _ hname] at hget
    exact h.bindings name bound hget

/-- Every path of the scope reads a value with the property. -/
theorem lookup_of_all (hP : Value.Hereditary P) (s : Scope) (h : s.All P) (path : String) :
    P (s.lookup path) := by
  unfold lookup
  cases hget : s.bindings.get? (firstSegment path) with
  | some element =>
    have helement := h.bindings _ element hget
    dsimp only
    split
    · exact helement
    · exact Value.follow_of_hereditary hP element helement _
  | none =>
    show P (s.lookupOutside path)
    unfold lookupOutside
    split
    · cases hdefault : s.defaults.get? path with
      | none => exact hP.undefined
      | some text => exact h.defaults path text hdefault
    · exact Value.follow_of_hereditary hP s.data h.data _

end Scope

end Stencil
