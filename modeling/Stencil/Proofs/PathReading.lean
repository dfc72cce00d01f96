import Mathlib.Data.List.TakeWhile
import Stencil.Scope

/-!
# Reading along paths

A path reads the field of its first segment, and goes on from there along its other segments. So
what it reads in some data depends on one field of the data only. A path whose first segment is
bound by a loop goes along the same segments, from the bound element on, as long as none of them is
empty (`IsDotted`): a path that ends with a dot would read the element itself.

## Key results

- `segments_eq`: the first segment and the others.
- `firstSegment_of_not_mem`: a path without a dot has one segment.
- `firstSegment_append`, `eq_firstSegment_or_append`: a path, taken apart at its first dot.
- `follow_cons`, `resolve_eq`, `resolve_eq_follow`: one step along a path.
- `lookup_of_bound`, `lookup_of_free`: what a path reads in a scope.
- `lookup_bind`: the innermost binding hides all others and the data.
-/

namespace Stencil

namespace Text

/-- The first piece of a text is what stands before the first separator. -/
theorem splitOn_eq (sep : Char) (s : List Char) :
    splitOn sep s = s.takeWhile (· != sep) :: match s.dropWhile (· != sep) with
      | [] => []
      | _ :: rest => splitOn sep rest := by
  induction s with
  | nil => rfl
  | cons c s ih =>
    unfold splitOn at ih ⊢
    by_cases hc : c = sep
    · simp [splitWhere, hc]
    · simp [splitWhere, hc, ih]

theorem bne_of_not_mem (sep : Char) (s : List Char) (h : sep ∉ s) :
    ∀ c ∈ s, (c != sep) = true := by
  intro c hc
  rw [bne_iff_ne]
  rintro rfl
  exact h hc

/-- A text without a separator is one piece. -/
theorem splitOn_of_not_mem (sep : Char) (s : List Char) (h : sep ∉ s) : splitOn sep s = [s] := by
  rw [splitOn, splitWhere_eq_splitOnP, List.splitOnP_eq_singleton]
  intro c hc
  rw [decide_eq_false_iff_not]
  rintro rfl
  exact h hc

/-- A text is the first piece if a separator follows it that is the first one. -/
theorem splitOn_append (sep : Char) (s rest : List Char) (h : sep ∉ s) :
    splitOn sep (s ++ sep :: rest) = s :: splitOn sep rest := by
  have hs := splitOn_of_not_mem sep s h
  rw [splitOn, splitWhere_eq_splitOnP] at hs
  rw [splitOn, splitWhere_eq_splitOnP, List.splitOnP_append_cons s rest (by simp), hs, splitOn,
    splitWhere_eq_splitOnP, List.singleton_append]

end Text

/-! ## Segments -/

/-- The segments of a path after the first one. -/
def laterSegments (path : String) : List String := (segments path).tail

theorem segments_eq (path : String) :
    segments path = firstSegment path :: laterSegments path := by
  rw [laterSegments, segments, Text.splitOn_eq]
  rfl

/-- No segment of the path is empty. -/
def IsDotted (path : String) : Prop := "" ∉ segments path

instance (path : String) : Decidable (IsDotted path) :=
  inferInstanceAs (Decidable ("" ∉ segments path))

/-- The other segments of a path with a dot in it are those of what follows the dot. -/
theorem laterSegments_eq (path : String) :
    laterSegments path = match path.toList.dropWhile (· != '.') with
      | [] => []
      | _ :: rest => segments (String.ofList rest) := by
  have hcut : segments path = firstSegment path :: List.map String.ofList
      (match path.toList.dropWhile (· != '.') with
        | [] => []
        | _ :: rest => Text.splitOn '.' rest) := by
    rw [segments, Text.splitOn_eq]
    rfl
  rw [laterSegments, hcut, List.tail_cons]
  cases path.toList.dropWhile (· != '.') with
  | nil => rfl
  | cons c rest =>
    show (Text.splitOn '.' rest).map String.ofList = segments (String.ofList rest)
    rw [segments, String.toList_ofList]

/-- A path without a dot is its first segment. -/
theorem firstSegment_of_not_mem (path : String) (h : '.' ∉ path.toList) :
    firstSegment path = path ∧ laterSegments path = [] := by
  have hne := Text.bne_of_not_mem '.' path.toList h
  constructor
  · rw [firstSegment, List.takeWhile_eq_self_iff.2 hne, String.ofList_toList]
  · rw [laterSegments_eq, List.dropWhile_eq_nil_iff.2 hne]

theorem not_mem_firstSegment (path : String) : '.' ∉ (firstSegment path).toList := by
  rw [firstSegment, String.toList_ofList]
  intro hdot
  simpa using List.mem_takeWhile_imp hdot

/-- The first segment of a path that is put together around its first dot. -/
theorem firstSegment_append (item path : String) (h : '.' ∉ item.toList) :
    firstSegment (item ++ "." ++ path) = item := by
  have hlist : (item ++ "." ++ path).toList = item.toList ++ '.' :: path.toList := by simp
  rw [firstSegment, hlist, List.takeWhile_append_of_pos (Text.bne_of_not_mem '.' _ h)]
  simp

/-- A path is its first segment, or that and a dot and something behind it. -/
theorem eq_firstSegment_or_append (path : String) :
    path = firstSegment path ∨ ∃ rest, path = firstSegment path ++ "." ++ rest := by
  have hsplit := List.takeWhile_append_dropWhile (p := (· != '.')) (l := path.toList)
  cases hrest : path.toList.dropWhile (· != '.') with
  | nil =>
    rw [hrest, List.append_nil] at hsplit
    exact .inl (by rw [firstSegment, hsplit, String.ofList_toList])
  | cons c rest =>
    -- what stands behind the first segment begins with the dot
    have hdot := List.head?_dropWhile_not (· != '.') path.toList
    rw [hrest] at hdot hsplit
    obtain rfl : c = '.' := by simpa using hdot
    refine .inr ⟨String.ofList rest, ?_⟩
    apply String.toList_injective
    simpa [firstSegment] using hsplit.symm

/-- A path with a dot goes on behind its first segment. -/
theorem laterSegments_ne_nil (path : String) (h : '.' ∈ path.toList) : laterSegments path ≠ [] := by
  rw [laterSegments_eq]
  split
  · next hnil => exact absurd (List.dropWhile_eq_nil_iff.1 hnil '.' h) (by decide)
  · exact segments_ne_nil _

namespace Value

/-- Nothing is behind what is not there. -/
theorem follow_undefined (path : List String) : undefined.follow path = undefined := by
  cases path <;> rfl

/-- A path goes on from a field, or from nothing. -/
theorem follow_cons (v : Value) (name : String) (rest : List String) :
    v.follow (name :: rest) = ((v.field? name).getD undefined).follow rest := by
  rw [follow]
  cases v.field? name with
  | none => exact (follow_undefined rest).symm
  | some inner => rfl

/-- A text has no fields. -/
theorem follow_text (s : String) (path : List String) (hpath : path ≠ []) :
    (text s).follow path = undefined := by
  cases path with
  | nil => exact absurd rfl hpath
  | cons => rfl

/-- A path reads a field and goes on from there. -/
theorem resolve_eq (value : Value) (path : String) :
    value.resolve path = match value.field? (firstSegment path) with
      | some inner => inner.follow (laterSegments path)
      | none => undefined := by
  rw [resolve, segments_eq]
  rfl

/-- A name reads a field. -/
theorem resolve_of_not_mem (value : Value) (name : String) (h : '.' ∉ name.toList) :
    value.resolve name = (value.field? name).getD undefined := by
  obtain ⟨hfirst, hlater⟩ := firstSegment_of_not_mem name h
  rw [resolve_eq, hfirst, hlater]
  cases value.field? name <;> rfl

/-- A path goes on from what its first segment reads. -/
theorem resolve_eq_follow (value : Value) (path : String) :
    value.resolve path = (value.resolve (firstSegment path)).follow (laterSegments path) := by
  rw [resolve_of_not_mem value _ (not_mem_firstSegment path), resolve_eq]
  cases value.field? (firstSegment path) with
  | some inner => rfl
  | none => exact (follow_undefined _).symm

end Value

namespace Scope

/-! ## Scopes -/

/-- What a path reads outside all loops depends on one field of the data. -/
theorem lookupOutside_congr (s s' : Scope) (path : String) (hdefaults : s.defaults = s'.defaults)
    (hdata : s.data.field? (firstSegment path) = s'.data.field? (firstSegment path)) :
    s.lookupOutside path = s'.lookupOutside path := by
  unfold lookupOutside
  rw [Value.resolve_eq, Value.resolve_eq, hdata, hdefaults]

/-- A path whose first segment is not bound reads the data and the defaults. -/
theorem lookup_of_free (s : Scope) (path : String)
    (h : s.bindings.get? (firstSegment path) = none) : s.lookup path = s.lookupOutside path := by
  rw [lookup, h]

/-- A path whose first segment is bound goes on from the bound element. -/
theorem lookup_of_bound (s : Scope) (path : String) (element : Value)
    (h : s.bindings.get? (firstSegment path) = some element) (hpath : IsDotted path) :
    s.lookup path = element.follow (laterSegments path) := by
  have hlater := laterSegments_eq path
  rw [lookup, h, afterFirstSegment]
  revert hlater
  cases path.toList.dropWhile (· != '.') with
  | nil =>
    intro hlater
    rw [hlater]
    rfl
  | cons c rest =>
    intro hlater
    rw [List.drop_one, List.tail_cons]
    dsimp only at hlater ⊢
    split
    · next hrest =>
      -- nothing after the dot would be an empty segment
      refine absurd ?_ hpath
      rw [segments_eq, hlater, hrest]
      exact List.mem_cons_of_mem _ (List.mem_singleton_self "")
    · rw [hlater]
      rfl

/-- The innermost binding of a name hides the outer ones and the data. -/
theorem lookup_bind (s : Scope) (item : String) (element : Value) (path : String)
    (hpath : IsDotted path) (h : firstSegment path = item) :
    (s.bind item element).lookup path = element.follow (laterSegments path) := by
  refine lookup_of_bound _ path element ?_ hpath
  rw [h]
  exact Entries.get?_put_self s.bindings item element

/-- A path behind the name of a bound item reads its element, whatever segments it has. -/
theorem lookup_bind_append (s : Scope) (item : String) (element : Value) (path : String)
    (hitem : '.' ∉ item.toList) (hpath : path ≠ "") :
    (s.bind item element).lookup (item ++ "." ++ path) = element.resolve path := by
  have hlist : (item ++ "." ++ path).toList = item.toList ++ '.' :: path.toList := by simp
  have hne := Text.bne_of_not_mem '.' item.toList hitem
  have hrest : afterFirstSegment (item ++ "." ++ path) = path := by
    rw [afterFirstSegment, hlist, List.dropWhile_append_of_pos hne]
    simp
  have hbound : (s.bind item element).bindings.get? item = some element :=
    Entries.get?_put_self s.bindings item element
  rw [lookup, firstSegment_append item path hitem, hbound, hrest]
  exact if_neg hpath

end Scope

end Stencil
