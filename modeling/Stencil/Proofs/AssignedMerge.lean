import Stencil.Proofs.AssignmentReading
import Stencil.Proofs.DeepMerge

/-!
# Assigning in data and laying assignments over data

Assignments can be made in some data, one after another, or they can be made in nothing, and the
tree of texts that comes of it be laid over the data. The two come to the same if no assignment goes
on from where another one ends. The tree then never blocks the path of the next assignment, and
under this condition one assignment may be made before the tree is laid over the data or after that
(`mergeFields_assignAt`). The fields even come in the same order: under either way of doing it, a
name keeps its place in the data, and a new one is entered when its first assignment is made.

If the tree does block a path, the two differ: with `a=1` and `a.b=2`, the fields that the data have
under `a` are kept by laying over, and lost when the first assignment is made in place.

## Key results

- `mergeFields_put`: a field that is entered before or after laying over.
- `mergeFields_assignAt`: the same for a value that is written along a path.
- `not_blocks_assignEach`: assignments do not block a path that goes on from none of theirs.
- `mergeFields_readAll`: assignments laid over data are assignments made in the data.
-/

namespace Stencil

namespace Value

/-! ## One field -/

/-- A field that is there can be replaced before others are laid over it. -/
theorem put_mergeFields (below above : Entries Value) (name : String) (v : Value)
    (habove : name ∉ above.keys) (hbelow : name ∈ below.keys) :
    (mergeFields below above).put name v = mergeFields (below.put name v) above := by
  induction above generalizing below with
  | nil => rfl
  | cons field rest ih =>
    obtain ⟨key, value⟩ := field
    obtain ⟨hkey, hrest⟩ := not_or.1 (mt List.mem_cons.2 habove)
    have hmem : name ∈ (below.put key (mergeInto (below.get? key) value)).keys := by
      rw [Entries.keys_put]
      split
      · exact hbelow
      · exact List.mem_append_left _ hbelow
    rw [mergeFields, mergeFields, ih _ hrest hmem, Entries.get?_put_of_ne below v (Ne.symm hkey),
      Entries.put_put_comm_of_mem below v _ (Ne.symm hkey) hbelow]

/-- A field can be entered before an object is laid over another one, or be laid over it
afterwards. -/
theorem mergeFields_put (below above : Entries Value) (habove : above.keys.Nodup) (name : String)
    (v : Value) : mergeFields below (above.put name v) =
      (mergeFields below above).put name (mergeInto (below.get? name) v) := by
  induction above generalizing below with
  | nil => rfl
  | cons field rest ih =>
    obtain ⟨key, value⟩ := field
    obtain ⟨hkey, hrest⟩ := List.nodup_cons.1 habove
    rw [Entries.put]
    by_cases hname : key = name
    · subst hname
      rw [if_pos rfl, mergeFields, mergeFields, put_mergeFields _ rest key _ hkey,
        Entries.put_put_self]
      rw [Entries.keys_put]
      split
      · assumption
      · exact List.mem_append_right _ (List.mem_singleton_self key)
    · rw [if_neg hname, mergeFields, mergeFields, ih _ hrest,
        Entries.get?_put_of_ne below _ (Ne.symm hname)]

/-! ## One path -/

theorem nodup_keys_assignAt (fields : Entries Value) (path : List String) (v : Value)
    (h : fields.keys.Nodup) : (assignAt fields path v).keys.Nodup := by
  cases path with
  | nil => exact h
  | cons name rest =>
    rw [assignAt_cons]
    exact Entries.nodup_keys_put _ _ _ h

theorem isDocument_empty : IsDocument (object []) where
  namesOnce := rfl
  defined h := by simp [within_object_iff] at h

/-- Without fields, nothing stops a path. -/
theorem not_blocks_empty (path : List String) : ¬ Blocks (object []) path := by
  rintro ⟨front, -, -, hleaf⟩
  cases front <;> cases hleaf

/-- What an object that does not block a path has under its first name can be taken for an object:
of a document, not blocking the rest of the path, and laid over what is below. -/
theorem fields_of_not_blocks (below above : Entries Value) (habove : IsDocument (object above))
    (name : String) (rest : List String) (hrest : rest ≠ [])
    (h : ¬ Blocks (object above) (name :: rest)) :
    let inner := ((above.get? name).getD undefined).fields
    IsDocument (object inner) ∧ ¬ Blocks (object inner) rest ∧
      (((mergeFields below above).get? name).getD undefined).fields =
        mergeFields ((below.get? name).getD undefined).fields inner := by
  intro inner
  rw [get?_mergeFields below above habove.nodup_keys]
  cases hget : above.get? name with
  | none =>
    have hinner : inner = [] := congrArg (fun v => (v.getD undefined).fields) hget
    rw [hinner]
    exact ⟨isDocument_empty, not_blocks_empty rest, rfl⟩
  | some v =>
    have hleaf : ¬ v.isLeaf = true := fun hleaf =>
      h (blocks_cons above name rest v hget (.inl ⟨hleaf, hrest⟩))
    have hv := habove.field hget
    cases v with
    | object fields =>
      have hinner : inner = fields := congrArg (fun v => (v.getD undefined).fields) hget
      rw [hinner]
      refine ⟨hv, fun hblocks => h (blocks_cons above name rest _ hget (.inr hblocks)), ?_⟩
      rw [Option.map_some, Option.some_or, mergeInto_object _ fields hv.nodup_keys]
      rfl
    | undefined => exact absurd rfl hv.ne_undefined
    | _ => exact absurd rfl hleaf

/-- A value that is no object can be written before an object is laid over another one or
afterwards, if the path is not blocked in the upper object. -/
theorem mergeFields_assignAt (below above : Entries Value) (habove : IsDocument (object above))
    (path : List String) (v : Value) (hv : ∀ fields, v ≠ object fields)
    (h : ¬ Blocks (object above) path) :
    mergeFields below (assignAt above path v) = assignAt (mergeFields below above) path v := by
  induction path generalizing below above with
  | nil => rfl
  | cons name rest ih =>
    rw [assignAt_cons, assignAt_cons, mergeFields_put below above habove.nodup_keys]
    congr 1
    by_cases hrest : rest = []
    · subst hrest
      exact mergeInto_of_upper _ v hv
    · obtain ⟨hinner, hblocks, hmerged⟩ := fields_of_not_blocks below above habove name rest hrest h
      rw [writtenBelow_of_ne_nil _ rest v hrest, writtenBelow_of_ne_nil _ rest v hrest,
        mergeInto_object _ _ (nodup_keys_assignAt _ rest v hinner.nodup_keys), hmerged,
        ih _ _ hinner hblocks]

/-- A tree of texts can be in a document. -/
theorem IsTextTree.isDocument {v : Value} (h : IsTextTree v) : IsDocument v := by
  induction h with
  | text s => exact ⟨rfl, fun h => nomatch (within_scalar_iff undefined _ rfl).1 h⟩
  | object hkeys hfields ih =>
    refine ⟨(namesOnce_object _).2 ⟨hkeys, fun field hfield => (ih field hfield).namesOnce⟩, ?_⟩
    rw [within_object_iff]
    rintro (heq | ⟨field, hfield, hundefined⟩)
    · cases heq
    · exact (ih field hfield).defined hundefined

theorem IsTextTree.exists_text {v : Value} (h : IsTextTree v) (hleaf : v.isLeaf = true) :
    ∃ s, v = Value.text s := by
  cases h with
  | text s => exact ⟨s, rfl⟩
  | object => cases hleaf

end Value

namespace Assignment

open Value (Blocks IsTextTree)

/-- Assignments block no path that goes on from none of theirs. -/
theorem not_blocks_assignEach (items : List String) (path : List String)
    (h : ∀ item ∈ items, segments (pathOf item) <+: path → segments (pathOf item) = path) :
    ¬ Blocks (.object (assignEach [] items)) path := by
  rintro ⟨front, hfront, hne, hleaf⟩
  have htree := isTextTree_assignEach [] items Value.isTextTree_empty
  -- what stops the path is a text, so it was assigned there
  obtain ⟨s, hs⟩ : ∃ s, (Value.object (assignEach [] items)).follow front = .text s := by
    rcases Value.isTextTree_follow _ htree front with hundefined | hvalue
    · rw [hundefined] at hleaf
      cases hleaf
    · exact hvalue.exists_text hleaf
  rcases exists_of_follow_assignEach [] items front s hs with ⟨item, hitem, rfl, -⟩ | hempty
  · exact hne (h item hitem hfront)
  · cases front <;> cases hempty

/-- Assignments can be laid over data, or be made in them, if none goes on from where another one
ends. -/
theorem mergeFields_assignEach (base : Entries Value) (items : List String)
    (h : ∀ item ∈ items, ∀ other ∈ items,
      segments (pathOf item) <+: segments (pathOf other) →
        segments (pathOf item) = segments (pathOf other)) :
    Value.mergeFields base (assignEach [] items) = assignEach base items := by
  induction items using List.reverseRecOn with
  | nil => rfl
  | append_singleton items item ih =>
    have hbefore := ih fun a ha b hb =>
      h a (List.mem_append_left _ ha) b (List.mem_append_left _ hb)
    have hdocument := (isTextTree_assignEach [] items Value.isTextTree_empty).isDocument
    have hfree := not_blocks_assignEach items (segments (pathOf item)) fun other hother =>
      h other (List.mem_append_left _ hother) item
        (List.mem_append_right _ (List.mem_singleton_self item))
    rw [assignEach_concat, assignEach_concat, ← hbefore]
    exact Value.mergeFields_assignAt base _ hdocument _ _ (fun _ => nofun) hfree

/-- **Laying assignments over data is making them in the data.** Let no item of a list be malformed,
and let no path of an item go on from where the path of another one ends. Then the items make data
of their own, and to lay these over some others gives what the items give, one after another, if
they are made in those others, whatever values stand in their way there. -/
theorem mergeFields_readAll (base : Entries Value) (items : List String)
    (hitems : ∀ item ∈ items, ¬ IsMalformed item)
    (hpaths : ∀ item ∈ items, ∀ other ∈ items,
      segments (pathOf item) <+: segments (pathOf other) →
        segments (pathOf item) = segments (pathOf other)) :
    ∃ data, readAll items = .ok data ∧ Value.mergeFields base data = assignEach base items :=
  ⟨_, readAll_of_not_isMalformed items hitems, mergeFields_assignEach base items hpaths⟩

/-- An object, a list and a text in the way of the paths, one of which comes twice. -/
theorem mergeFields_readAll_obstructed :
    let base : Entries Value := [("a", .object [("z", .null)]), ("l", .list [.null]),
      ("t", .text "flat")]
    let items := ["a.b=1", "l.x=2", " a.b =3", "t.u.=4"]
    let merged : Entries Value := [("a", .object [("z", .null), ("b", .text "3")]),
      ("l", .object [("x", .text "2")]), ("t", .object [("u", .object [("", .text "4")])])]
    (∀ item ∈ items, ¬ IsMalformed item) ∧
      (∀ item ∈ items, ∀ other ∈ items, segments (pathOf item) <+: segments (pathOf other) →
        segments (pathOf item) = segments (pathOf other)) ∧
      assignEach base items = merged ∧
      ∃ data, readAll items = .ok data ∧ Value.mergeFields base data = assignEach base items := by
  intro base items merged
  have hitems : ∀ item ∈ items, ¬ IsMalformed item := by decide
  have hpaths : ∀ item ∈ items, ∀ other ∈ items,
      segments (pathOf item) <+: segments (pathOf other) →
        segments (pathOf item) = segments (pathOf other) := by decide
  have hmerged : assignEach base items = merged := by rfl
  exact ⟨hitems, hpaths, hmerged, mergeFields_readAll base items hitems hpaths⟩

end Assignment

end Stencil
