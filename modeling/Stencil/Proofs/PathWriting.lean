import Mathlib.Data.List.Infix
import Mathlib.Data.List.Nodup
import Stencil.Proofs.PathReading

/-!
# Writing along paths

A value that is written along a path is read along the same path. Every other path reads what it
read before, if it parts from the written one at some segment (`Diverge`): neither of the two goes
on from where the other ends. So values may be written one after another along paths that diverge
from each other, and none of them is lost.

## Key results

- `diverge_iff`: the paths that diverge, by their texts.
- `assignAt_cons`: a path writes one field.
- `resolve_assign_self`: the written value is read.
- `resolve_assign_of_diverge`: what is read along other paths stays.
- `resolve_foldl_assign_append`: of values written one after another, which are read.
-/

namespace Stencil

namespace Text

/-! ## Pieces and separators -/

theorem splitOn_eq_listSplitOn (sep : Char) (s : List Char) : splitOn sep s = s.splitOn sep :=
  splitWhere_eq_splitOnP (· = sep) s

theorem intercalate_append (sep : Char) (as bs : List (List Char)) (has : as ≠ [])
    (hbs : bs ≠ []) :
    [sep].intercalate (as ++ bs) = [sep].intercalate as ++ sep :: [sep].intercalate bs := by
  induction as with
  | nil => exact absurd rfl has
  | cons a as ih =>
    cases as with
    | nil => simp [List.intercalate_cons_of_ne_nil hbs]
    | cons a' as =>
      have hne : a' :: as ≠ [] := List.cons_ne_nil a' as
      have happend : a' :: as ++ bs ≠ [] := List.append_ne_nil_of_left_ne_nil hne bs
      rw [List.cons_append, List.intercalate_cons_of_ne_nil happend, ih hne,
        List.intercalate_cons_of_ne_nil hne]
      simp

/-- The pieces of a text begin with all pieces of another one if the text goes on behind a
separator. -/
theorem splitOn_isPrefix_iff (sep : Char) (s t : List Char) :
    splitOn sep s <+: splitOn sep t ↔ s = t ∨ s ++ [sep] <+: t := by
  rw [splitOn_eq_listSplitOn, splitOn_eq_listSplitOn]
  constructor
  · rintro ⟨rest, hrest⟩
    have ht : [sep].intercalate (t.splitOn sep) = t := List.intercalate_splitOn sep
    by_cases hnil : rest = []
    · left
      rw [← ht, ← hrest, hnil, List.append_nil, List.intercalate_splitOn]
    · right
      have hne : s.splitOn sep ≠ [] := by
        rw [← splitOn_eq_listSplitOn]
        exact splitWhere_ne_nil _ s
      rw [← ht, ← hrest, intercalate_append sep _ _ hne hnil, List.intercalate_splitOn]
      exact ⟨[sep].intercalate rest, by simp⟩
  · rintro (rfl | ⟨rest, rfl⟩)
    · exact List.prefix_rfl
    · rw [List.append_assoc, List.singleton_append, List.splitOn_append_cons_self]
      exact List.prefix_append _ _

end Text

/-- The second path goes on behind the first one and a dot. -/
def IsDottedPrefix (p q : String) : Prop := p.toList ++ ['.'] <+: q.toList

instance (p q : String) : Decidable (IsDottedPrefix p q) :=
  inferInstanceAs (Decidable (_ <+: _))

/-- The paths part at some segment: neither goes on from where the other one ends. -/
def Diverge (p q : String) : Prop := ¬ segments p <+: segments q ∧ ¬ segments q <+: segments p

/-- The segments of a path begin with those of another one if it goes on behind that one. -/
theorem segments_isPrefix_iff (p q : String) :
    segments p <+: segments q ↔ p = q ∨ IsDottedPrefix p q := by
  have hinj : Function.Injective String.ofList := fun _ _ h => String.ofList_injective h
  rw [segments, segments, List.prefix_map_iff_of_injective hinj, Text.splitOn_isPrefix_iff,
    String.toList_inj]
  rfl

theorem diverge_iff (p q : String) :
    Diverge p q ↔ p ≠ q ∧ ¬ IsDottedPrefix p q ∧ ¬ IsDottedPrefix q p := by
  rw [Diverge, segments_isPrefix_iff, segments_isPrefix_iff, eq_comm (a := q)]
  tauto

theorem Diverge.symm {p q : String} (h : Diverge p q) : Diverge q p := And.symm h

/-- Paths diverge if none of them goes on behind another one. -/
theorem pairwise_diverge (paths : List String) (hpaths : paths.Nodup)
    (h : ∀ p ∈ paths, ∀ q ∈ paths, ¬ IsDottedPrefix p q) : paths.Pairwise Diverge :=
  hpaths.pairwise_of_forall_ne fun p hp q hq hne =>
    (diverge_iff p q).2 ⟨hne, h p hp q hq, h q hq p hp⟩

namespace Value

/-! ## One value -/

theorem field?_object_fields (value : Value) (name : String) :
    (object value.fields).field? name = value.field? name := by
  cases value <;> rfl

/-- What is no object can be taken for an empty one: neither has anything behind it. -/
theorem follow_object_fields (value : Value) (path : List String) (hpath : path ≠ []) :
    (object value.fields).follow path = value.follow path := by
  cases path with
  | nil => exact absurd rfl hpath
  | cons name rest => rw [follow, follow, field?_object_fields]

/-- What stands under a name when a value has been written along a path that goes on from there. -/
def writtenBelow (below : Option Value) (rest : List String) (value : Value) : Value :=
  match rest with
  | [] => value
  | _ :: _ => object (assignAt (below.getD undefined).fields rest value)

/-- A path writes one field. -/
theorem assignAt_cons (fields : Entries Value) (name : String) (rest : List String)
    (value : Value) : assignAt fields (name :: rest) value =
      fields.put name (writtenBelow (fields.get? name) rest value) := by
  cases rest <;> rfl

theorem writtenBelow_of_ne_nil (below : Option Value) (rest : List String) (value : Value)
    (h : rest ≠ []) : writtenBelow below rest value =
      object (assignAt (below.getD undefined).fields rest value) := by
  cases rest with
  | nil => exact absurd rfl h
  | cons => rfl

theorem follow_assignAt_self (fields : Entries Value) (path : List String) (value : Value)
    (hpath : path ≠ []) : (object (assignAt fields path value)).follow path = value := by
  induction path generalizing fields with
  | nil => exact absurd rfl hpath
  | cons name rest ih =>
    rw [assignAt_cons, follow_cons, field?, Entries.get?_put_self, Option.getD_some]
    cases rest with
    | nil => rfl
    | cons next rest => exact ih _ (List.cons_ne_nil next rest)

theorem follow_assignAt_of_not_isPrefix (fields : Entries Value) (p q : List String)
    (value : Value) (hpq : ¬ p <+: q) (hqp : ¬ q <+: p) :
    (object (assignAt fields p value)).follow q = (object fields).follow q := by
  induction p generalizing fields q with
  | nil => exact absurd List.nil_prefix hpq
  | cons name p ih =>
    cases q with
    | nil => exact absurd List.nil_prefix hqp
    | cons other q =>
      rw [assignAt_cons, follow_cons, follow_cons, field?, field?]
      by_cases hname : other = name
      · -- the paths go through the same field and part in it
        subst hname
        rw [List.prefix_cons_inj] at hpq hqp
        have hp : p ≠ [] := by
          rintro rfl
          exact hpq List.nil_prefix
        have hq : q ≠ [] := by
          rintro rfl
          exact hqp List.nil_prefix
        rw [Entries.get?_put_self, Option.getD_some, writtenBelow_of_ne_nil _ p value hp,
          ih _ q hpq hqp, follow_object_fields _ q hq]
      · rw [Entries.get?_put_of_ne fields _ hname]

/-- What is written along a path is read along it. -/
theorem resolve_assign_self (data : Entries Value) (path : String) (value : Value) :
    (object (assign data path value)).resolve path = value :=
  follow_assignAt_self data (segments path) value (segments_ne_nil path)

theorem resolve_assign_of_diverge (data : Entries Value) (path other : String) (value : Value)
    (h : Diverge path other) :
    (object (assign data path value)).resolve other = (object data).resolve other :=
  follow_assignAt_of_not_isPrefix data (segments path) (segments other) value h.1 h.2

/-- A path writes the field of its first segment. -/
theorem get?_assign_of_ne (data : Entries Value) (path name : String) (value : Value)
    (h : name ≠ firstSegment path) : (assign data path value).get? name = data.get? name := by
  rw [assign, segments_eq, assignAt_cons]
  exact Entries.get?_put_of_ne data _ h

/-! ## Values one after another -/

section

variable (items : List (String × Value)) (data : Entries Value)

theorem resolve_foldl_assign_of_diverge (path : String) (h : ∀ item ∈ items, Diverge item.1 path) :
    (object (items.foldl (fun data item => assign data item.1 item.2) data)).resolve path =
      (object data).resolve path := by
  induction items generalizing data with
  | nil => rfl
  | cons item items ih =>
    rw [List.forall_mem_cons] at h
    rw [List.foldl_cons, ih _ h.2, resolve_assign_of_diverge data item.1 path _ h.1]

/-- A value is read if all that are written after it go along paths that diverge from its own. -/
theorem resolve_foldl_assign_append (path : String) (value : Value) (later : List (String × Value))
    (h : ∀ item ∈ later, Diverge item.1 path) :
    (object ((items ++ (path, value) :: later).foldl
      (fun data item => assign data item.1 item.2) data)).resolve path = value := by
  rw [List.foldl_append, List.foldl_cons, resolve_foldl_assign_of_diverge later _ path h]
  exact resolve_assign_self _ path value

/-- All values are read that are written along paths that diverge from each other. -/
theorem resolve_foldl_assign (h : items.Pairwise fun a b => Diverge a.1 b.1) (path : String)
    (value : Value) (hmem : (path, value) ∈ items) :
    (object (items.foldl (fun data item => assign data item.1 item.2) data)).resolve path =
      value := by
  obtain ⟨before, later, rfl⟩ := List.append_of_mem hmem
  obtain ⟨-, hlater, -⟩ := List.pairwise_append.1 h
  exact resolve_foldl_assign_append before data path value later
    fun item hitem => ((List.pairwise_cons.1 hlater).1 item hitem).symm

theorem get?_foldl_assign_of_ne (name : String)
    (h : ∀ item ∈ items, name ≠ firstSegment item.1) :
    Entries.get? (items.foldl (fun data item => assign data item.1 item.2) data) name =
      data.get? name := by
  induction items generalizing data with
  | nil => rfl
  | cons item items ih =>
    rw [List.forall_mem_cons] at h
    rw [List.foldl_cons, ih _ h.2, get?_assign_of_ne data item.1 name _ h.1]

end

end Value

end Stencil
