import Stencil.Proofs.PathWriting
import Stencil.Proofs.ValueEquality

/-!
# Reading and writing along one path

Reading along a path and writing along it form a lens. The value that was written is read, the
second of two writes along one path is the one that counts, and writes along paths that part from
each other neither disturb one another nor depend on their order. What stands in the way of a path
and is no object gives way to an object, whatever it was, so none of this asks for a shape of the
data.

The order of two writes shows in one place: new fields are entered at the end of their object. So
the two results are the same up to the order of fields (`Reordered`), which neither reading along a
path nor strict equality can tell.

## Key results

- `follow_of_reordered`, `same_of_reordered`: what the order of fields does not change.
- `follow_assignAt_append`: what a written path leads through.
- `assignAt_self`: the second of two writes along one path.
- `assignAt_comm`: two writes along paths that diverge.
- `assign_resolve_lens`: all laws for paths as texts.
-/

namespace Stencil.Value

/-! ## The order of fields -/

/-- The values are the same but for the order of fields, in an object and in the objects that are
its fields. -/
inductive Reordered : Value → Value → Prop
  | self (v : Value) : Reordered v v
  | object {fields others : Entries Value} (hkeys : fields.keys.Perm others.keys)
      (hfields : ∀ name v w, fields.get? name = some v → others.get? name = some w →
        Reordered v w) :
      Reordered (object fields) (object others)

/-- What is entered under one name may be reordered. -/
theorem reordered_put (fields : Entries Value) (name : String) (v w : Value) (h : Reordered v w) :
    Reordered (object (fields.put name v)) (object (fields.put name w)) := by
  refine .object ?_ fun other v' w' hv hw => ?_
  · rw [Entries.keys_put, Entries.keys_put]
  · rw [Entries.get?_put] at hv hw
    split at hv
    · next hname =>
      rw [if_pos hname] at hw
      cases hv
      cases hw
      exact h
    · next hname =>
      rw [if_neg hname, hv] at hw
      cases hw
      exact .self v'

/-- Two fields may be entered in either order. -/
theorem reordered_put_put (fields : Entries Value) {name other : String} (v w : Value)
    (hne : other ≠ name) :
    Reordered (object ((fields.put name v).put other w))
      (object ((fields.put other w).put name v)) := by
  refine .object (Entries.keys_put_put_perm fields name other v w) fun key v' w' hv hw => ?_
  have hget : Entries.get? ((fields.put name v).put other w) key =
      Entries.get? ((fields.put other w).put name v) key := by
    simp only [Entries.get?_put]
    by_cases hname : key = name
    · simp [hname, hne.symm]
    · simp [hname]
  rw [hget, hw] at hv
  cases hv
  exact .self _

/-- A path reads the same, up to the order of fields again. -/
theorem follow_of_reordered (v w : Value) (h : Reordered v w) (path : List String) :
    Reordered (v.follow path) (w.follow path) := by
  induction path generalizing v w with
  | nil => exact h
  | cons name rest ih =>
    cases h with
    | self => exact .self _
    | @object fields others hkeys hfields =>
      -- if one of the objects lacks the name, so does the other
      have hnone : fields.get? name = none ↔ others.get? name = none := by
        rw [Entries.get?_eq_none_iff, Entries.get?_eq_none_iff, hkeys.mem_iff]
      rw [follow, follow, field?, field?]
      cases hv : fields.get? name with
      | none =>
        rw [hnone.1 hv]
        exact .self _
      | some inner =>
        cases hw : others.get? name with
        | none =>
          rw [hnone.2 hw] at hv
          cases hv
        | some other => exact ih inner other (hfields name inner other hv hw)

/-- Strict equality does not see the order of fields. -/
theorem same_of_reordered (v w : Value) (h : Reordered v w) (hv : v.namesOnce = true)
    (hw : w.namesOnce = true) : v.same w = true := by
  induction h with
  | self v => exact same_self v hv
  | @object fields others hkeys hfields ih =>
    rw [namesOnce_object] at hv hw
    have hlength : fields.length = others.length := by
      simpa [Entries.keys] using hkeys.length_eq
    rw [same, hlength, beq_self_eq_true, Bool.true_and, sameFields_iff]
    rintro ⟨name, value⟩ hfield
    have hmem : name ∈ others.keys := hkeys.mem_iff.1 (List.mem_map_of_mem hfield)
    have hget := Entries.get?_eq_some_of_mem fields hv.1 name value hfield
    cases hother : others.get? name with
    | none => exact absurd hmem ((Entries.get?_eq_none_iff others name).1 hother)
    | some other =>
      have hnames := hw.2 _ (Entries.mem_of_get? others name other hother)
      exact ⟨other, rfl, ih name value other hget hother (hv.2 _ hfield) hnames⟩

/-! ## Two writes -/

/-- A path that is written goes through objects, which have been written along the rest of it. -/
theorem follow_assignAt_append (fields : Entries Value) (p q : List String) (value : Value)
    (hq : q ≠ []) : (object (assignAt fields (p ++ q) value)).follow p =
      object (assignAt ((object fields).follow p).fields q value) := by
  induction p generalizing fields with
  | nil => rfl
  | cons name p ih =>
    have hne : p ++ q ≠ [] := List.append_ne_nil_of_right_ne_nil p hq
    rw [List.cons_append, assignAt_cons, follow_cons, follow_cons, field?, field?,
      Entries.get?_put_self, Option.getD_some, writtenBelow_of_ne_nil _ _ value hne, ih]
    congr 2
    -- what is no object was taken for an empty one
    cases p with
    | nil => rfl
    | cons => exact congrArg Value.fields (follow_object_fields _ _ (List.cons_ne_nil _ _))

/-- The second of two writes along a path undoes the first one. -/
theorem assignAt_self (fields : Entries Value) (path : List String) (v w : Value) :
    assignAt (assignAt fields path v) path w = assignAt fields path w := by
  induction path generalizing fields with
  | nil => rfl
  | cons name rest ih =>
    rw [assignAt_cons, assignAt_cons, assignAt_cons, Entries.get?_put_self, Entries.put_put_self]
    congr 1
    cases rest with
    | nil => rfl
    | cons next rest => exact congrArg object (ih _)

/-- Writes along two paths that diverge can be made in either order. -/
theorem assignAt_comm (fields : Entries Value) (p q : List String) (v w : Value)
    (hpq : ¬ p <+: q) (hqp : ¬ q <+: p) :
    Reordered (object (assignAt (assignAt fields p v) q w))
      (object (assignAt (assignAt fields q w) p v)) := by
  induction p generalizing fields q with
  | nil => exact absurd List.nil_prefix hpq
  | cons name p ih =>
    cases q with
    | nil => exact absurd List.nil_prefix hqp
    | cons other q =>
      rw [assignAt_cons, assignAt_cons, assignAt_cons, assignAt_cons]
      by_cases hname : other = name
      · -- both paths go through one field and part in it
        subst hname
        rw [List.prefix_cons_inj] at hpq hqp
        have hp : p ≠ [] := by
          rintro rfl
          exact hpq List.nil_prefix
        have hq : q ≠ [] := by
          rintro rfl
          exact hqp List.nil_prefix
        rw [Entries.get?_put_self, Entries.get?_put_self, Entries.put_put_self,
          Entries.put_put_self]
        apply reordered_put
        simp only [writtenBelow_of_ne_nil _ p v hp, writtenBelow_of_ne_nil _ q w hq]
        exact ih _ q hpq hqp
      · rw [Entries.get?_put_of_ne fields _ hname, Entries.get?_put_of_ne fields _ (Ne.symm hname)]
        exact reordered_put_put fields _ _ hname

/-! ## The laws of a lens -/

/-- **Paths are lenses.** In data of any shape, the value that is written along a path is read along
it, and all that the path goes through are objects. Of two values that are written along the path,
the second counts, as if the first had not been written. Along a path that parts from it, what is
read stays, and values can be written along both in either order, which makes no difference but for
the order of fields. -/
theorem assign_resolve_lens (data : Entries Value) (p q : String) (v w : Value) :
    (object (assign data p v)).resolve p = v ∧
      (∀ before, before <+: segments p → before ≠ segments p →
        ∃ fields, (object (assign data p v)).follow before = object fields) ∧
      assign (assign data p v) p w = assign data p w ∧
      (Diverge p q →
        (object (assign data p v)).resolve q = (object data).resolve q ∧
        Reordered (object (assign (assign data p v) q w))
          (object (assign (assign data q w) p v))) := by
  refine ⟨resolve_assign_self data p v, ?_, assignAt_self data (segments p) v w, fun h => ⟨?_, ?_⟩⟩
  · rintro before ⟨rest, hrest⟩ hne
    have hnil : rest ≠ [] := by
      rintro rfl
      exact hne (by rw [← hrest, List.append_nil])
    rw [assign, ← hrest, follow_assignAt_append data before rest v hnil]
    exact ⟨_, rfl⟩
  · exact resolve_assign_of_diverge data p q v h
  · exact assignAt_comm data (segments p) (segments q) v w h.1 h.2

/-- Two paths, the second with an empty segment, go through a text that is no object. -/
theorem assign_resolve_lens_flat :
    let data : Entries Value := [("site", text "flat")]
    let one := assign (assign data "site.name" (text "dc1")) "site." (int 1)
    let other := assign (assign data "site." (int 1)) "site.name" (text "dc1")
    Diverge "site.name" "site." ∧
      one = [("site", object [("name", text "dc1"), ("", int 1)])] ∧
      other = [("site", object [("", int 1), ("name", text "dc1")])] ∧
      Reordered (object one) (object other) ∧
      (object (assign data "site.name" (text "dc1"))).resolve "site.name" = text "dc1" := by
  intro data one other
  have hdiverge : Diverge "site.name" "site." := (diverge_iff _ _).2 (by decide)
  obtain ⟨hread, -, -, h⟩ :=
    assign_resolve_lens data "site.name" "site." (text "dc1") (int 1)
  exact ⟨hdiverge, rfl, rfl, (h hdiverge).2, hread⟩

end Stencil.Value
