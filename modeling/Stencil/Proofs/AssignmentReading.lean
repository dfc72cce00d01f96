import Stencil.Assignment
import Stencil.Proofs.HereditaryValues
import Stencil.Proofs.Occurrence
import Stencil.Proofs.PathLens
import Stencil.Proofs.Trimming

/-!
# What assignments make

An assignment gives a text to a path: the path is what stands before the first equals sign, without
the blanks around it, and the text is all that follows that sign. A text without the sign, or with
nothing but blanks before it, is malformed, and the first malformed one is what a list of
assignments is refused for.

Assignments are made one after another, and each of them may replace an object by a text, or a text
by an object. So an assignment is read back if none that comes later touches its path from above or
from below. What has been made is a tree of objects with texts at its ends (`IsTextTree`), and each
of these texts was given to just the path that it is read along.

## Key results

- `read?_eq`: the path and the text of an assignment.
- `assignAll_eq`: a list of assignments is made item by item, or refused for the first malformed
  one.
- `follow_assignAt_eq_text`: where a text comes from that is read after a write.
- `isTextTree_assignEach`: what assignments make.
- `readAll_last_wins`: what is read of a list of assignments.
-/

namespace Stencil

/-- A text is cut at the first of the characters that a one-character mark stands for. -/
theorem Text.cut?_singleton (m : Char) (s : List Char) :
    cut? [m] s =
      if m ∈ s then some (s.takeWhile (· != m), (s.dropWhile (· != m)).tail) else none := by
  induction s with
  | nil => rfl
  | cons c s ih =>
    rw [cut?, afterPrefix?, ih]
    by_cases hc : m = c
    · simp [hc, afterPrefix?]
    · by_cases hm : m ∈ s <;> simp [hc, Ne.symm hc, hm]

namespace Value

/-! ## Trees of texts -/

/-- Objects in one another with texts at their ends. No object names anything twice. -/
inductive IsTextTree : Value → Prop
  | text (s : String) : IsTextTree (text s)
  | object {fields : Entries Value} (hkeys : fields.keys.Nodup)
      (hfields : ∀ field ∈ fields, IsTextTree field.2) : IsTextTree (object fields)

theorem isTextTree_empty : IsTextTree (object []) :=
  .object List.nodup_nil fun _ hfield => absurd hfield List.not_mem_nil

/-- What stands under a name is taken for an object, and is still a tree. -/
theorem isTextTree_below (fields : Entries Value) (name : String) (h : IsTextTree (object fields)) :
    IsTextTree (object ((fields.get? name).getD undefined).fields) := by
  cases hget : fields.get? name with
  | none => exact isTextTree_empty
  | some inner =>
    cases h with
    | object hkeys hfields =>
      cases hfields _ (Entries.mem_of_get? fields name inner hget) with
      | text s => exact isTextTree_empty
      | object hkeys hfields => exact .object hkeys hfields

/-- A tree that is written along a path makes the tree below it larger. -/
theorem isTextTree_assignAt (fields : Entries Value) (path : List String) (value : Value)
    (h : IsTextTree (object fields)) (hvalue : IsTextTree value) :
    IsTextTree (object (assignAt fields path value)) := by
  induction path generalizing fields with
  | nil => exact h
  | cons name rest ih =>
    have hwritten : IsTextTree (writtenBelow (fields.get? name) rest value) := by
      cases rest with
      | nil => exact hvalue
      | cons next rest => exact ih _ (isTextTree_below fields name h)
    rw [assignAt_cons]
    cases h with
    | object hkeys hfields =>
      refine .object (Entries.nodup_keys_put _ _ _ hkeys) fun field hfield => ?_
      rcases Entries.mem_put fields name _ field hfield with rfl | hmem
      · exact hwritten
      · exact hfields field hmem

/-- All that a path leads to in a tree is a tree. -/
theorem isTextTree_follow (v : Value) (h : IsTextTree v) (path : List String) :
    v.follow path = undefined ∨ IsTextTree (v.follow path) := by
  have hhereditary : Hereditary fun v => v = undefined ∨ IsTextTree v := by
    refine ⟨.inl rfl, fun items h => ?_, fun fields h name v hget => ?_⟩
    · rcases h with h | h <;> cases h
    · rcases h with h | h
      · cases h
      · cases h with
        | object hkeys hfields =>
          exact .inr (hfields _ (Entries.mem_of_get? fields name v hget))
  exact follow_of_hereditary hhereditary v (.inr h) path

/-- A text that is read after a text was written is the written one, along its own path, or it was
read before. -/
theorem follow_assignAt_eq_text (fields : Entries Value) (p q : List String) (s t : String)
    (hp : p ≠ []) (h : (object (assignAt fields p (text s))).follow q = text t) :
    (p = q ∧ s = t) ∨ (object fields).follow q = text t := by
  by_cases hpq : p <+: q
  · obtain ⟨rest, rfl⟩ := hpq
    rw [follow_append, follow_assignAt_self fields p _ hp] at h
    cases rest with
    | nil =>
      cases h
      exact .inl ⟨(List.append_nil p).symm, rfl⟩
    | cons name rest =>
      rw [follow_text s _ (List.cons_ne_nil name rest)] at h
      cases h
  · by_cases hqp : q <+: p
    · obtain ⟨rest, rfl⟩ := hqp
      have hrest : rest ≠ [] := by
        rintro rfl
        exact hpq ((List.append_nil q).symm ▸ List.prefix_rfl)
      rw [follow_assignAt_append fields q rest _ hrest] at h
      cases h
    · right
      rw [← follow_assignAt_of_not_isPrefix fields p q (text s) hpq hqp]
      exact h

end Value

namespace Assignment

open Value (IsTextTree)

/-! ## One assignment -/

/-- The path of an assignment. -/
def pathOf (item : String) : String := .ofList (Text.trim (item.toList.takeWhile (· != '=')))

/-- The text that an assignment gives to its path. -/
def textOf (item : String) : String := .ofList (item.toList.dropWhile (· != '=')).tail

/-- There is no equals sign in the text, or nothing but blanks before the first one. -/
def IsMalformed (item : String) : Prop :=
  '=' ∉ item.toList ∨ Text.IsBlanks (item.toList.takeWhile (· != '='))

instance (item : String) : Decidable (IsMalformed item) :=
  inferInstanceAs (Decidable (_ ∨ _))

theorem read?_eq (item : String) :
    read? item = if IsMalformed item then none else some (pathOf item, textOf item) := by
  unfold read? IsMalformed pathOf textOf
  rw [Text.cut?_singleton]
  by_cases hsign : '=' ∈ item.toList
  · simp only [hsign, if_true, not_true_eq_false, false_or, ← Text.trim_eq_nil_iff,
      Option.bind_eq_bind, Option.bind_some]
    cases Text.trim (item.toList.takeWhile (· != '=')) with
    | nil => simp
    | cons c key => simp
  · simp [hsign]

/-! ## Assignments one after another -/

/-- Gives their texts to the paths of assignments, one after another. -/
def assignEach (data : Entries Value) (items : List String) : Entries Value :=
  items.foldl (fun data item => Value.assign data (pathOf item) (.text (textOf item))) data

theorem assignEach_cons (data : Entries Value) (item : String) (rest : List String) :
    assignEach data (item :: rest) =
      assignEach (Value.assign data (pathOf item) (.text (textOf item))) rest := by
  rw [assignEach, List.foldl_cons, assignEach]

theorem assignEach_concat (data : Entries Value) (items : List String) (item : String) :
    assignEach data (items ++ [item]) =
      Value.assign (assignEach data items) (pathOf item) (.text (textOf item)) := by
  rw [assignEach, List.foldl_append, List.foldl_cons, List.foldl_nil, assignEach]

/-- Assignments are made one after another, unless one of them is malformed. -/
theorem assignAll_eq (data : Entries Value) (items : List String) :
    assignAll data items = match items.find? (IsMalformed ·) with
      | some item => .error ⟨item⟩
      | none => .ok (assignEach data items) := by
  induction items generalizing data with
  | nil => rfl
  | cons item rest ih =>
    rw [assignAll, read?_eq]
    by_cases hitem : IsMalformed item
    · simp [hitem]
    · simp only [hitem, if_false, ih, List.find?_cons, decide_false, assignEach_cons]

/-- A text is read where it was assigned, if no later assignment touches its path. -/
theorem resolve_assignEach (data : Entries Value) (before : List String) (item : String)
    (later : List String) (h : ∀ other ∈ later, Diverge (pathOf other) (pathOf item)) :
    (Value.object (assignEach data (before ++ item :: later))).resolve (pathOf item) =
      .text (textOf item) := by
  let entry := fun item => (pathOf item, Value.text (textOf item))
  have heach : assignEach data (before ++ item :: later) =
      (before.map entry ++ entry item :: later.map entry).foldl
        (fun data item => Value.assign data item.1 item.2) data := by
    rw [← List.map_cons, ← List.map_append, List.foldl_map]
    rfl
  rw [heach]
  exact Value.resolve_foldl_assign_append _ data _ _ _ (List.forall_mem_map.2 h)

/-- A text that is read after assignments was assigned by one of them, along its own path, or it was
read before. -/
theorem exists_of_follow_assignEach (data : Entries Value) (items names : List String) (t : String)
    (h : (Value.object (assignEach data items)).follow names = .text t) :
    (∃ item ∈ items, segments (pathOf item) = names ∧ textOf item = t) ∨
      (Value.object data).follow names = .text t := by
  induction items generalizing data with
  | nil => exact .inr h
  | cons item rest ih =>
    rw [assignEach_cons] at h
    rcases ih _ h with ⟨other, hmem, hother⟩ | hold
    · exact .inl ⟨other, List.mem_cons_of_mem _ hmem, hother⟩
    · have hwritten := Value.follow_assignAt_eq_text data _ _ _ _ (segments_ne_nil _) hold
      exact hwritten.imp_left fun hitem => ⟨item, List.mem_cons_self, hitem⟩

/-- Assignments make a tree larger. -/
theorem isTextTree_assignEach (data : Entries Value) (items : List String)
    (h : IsTextTree (.object data)) : IsTextTree (.object (assignEach data items)) := by
  induction items generalizing data with
  | nil => exact h
  | cons item rest ih =>
    rw [assignEach_cons]
    exact ih _ (Value.isTextTree_assignAt data _ _ h (.text _))

/-- Assignments without a malformed one make data. -/
theorem readAll_of_not_isMalformed (items : List String) (h : ∀ item ∈ items, ¬ IsMalformed item) :
    readAll items = .ok (assignEach [] items) := by
  have hnone : items.find? (IsMalformed ·) = none := by simpa using h
  rw [readAll, assignAll_eq, hnone]

theorem readAll_eq_ok_iff (items : List String) (data : Entries Value) :
    readAll items = .ok data ↔
      (∀ item ∈ items, ¬ IsMalformed item) ∧ data = assignEach [] items := by
  constructor
  · intro h
    rw [readAll, assignAll_eq] at h
    split at h
    · cases h
    · next hnone =>
      cases h
      exact ⟨by simpa using hnone, rfl⟩
  · rintro ⟨h, rfl⟩
    exact readAll_of_not_isMalformed items h

/-- **The last assignment to a path wins.** A list of assignments is refused if and only if one of
them is malformed, and the message names the first that is. Otherwise an assignment that no later
one touches, from above or from below its path, is read back along its path. And the data are a tree
of texts, each of which is at the path of an assignment of this text. -/
theorem readAll_last_wins (items : List String) :
    ((∃ e, readAll items = .error e) ↔ ∃ item ∈ items, IsMalformed item) ∧
      (∀ e, readAll items = .error e → ∃ before item later, items = before ++ item :: later ∧
        (∀ other ∈ before, ¬ IsMalformed other) ∧ IsMalformed item ∧
        e.message = "Invalid assignment '" ++ item ++ "'. Expected 'key=value'") ∧
      ∀ data, readAll items = .ok data →
        (∀ before item later, items = before ++ item :: later →
          (∀ other ∈ later, Diverge (pathOf other) (pathOf item)) →
          (Value.object data).resolve (pathOf item) = .text (textOf item)) ∧
        IsTextTree (.object data) ∧
        ∀ names s, (Value.object data).follow names = .text s →
          ∃ item ∈ items, segments (pathOf item) = names ∧ textOf item = s := by
  refine ⟨?_, fun e he => ?_, fun data hdata => ?_⟩
  · rw [readAll, assignAll_eq]
    cases hfind : items.find? (IsMalformed ·) with
    | none => simpa using hfind
    | some item =>
      have hitem := List.find?_some hfind
      simpa using ⟨item, List.mem_of_find?_eq_some hfind, by simpa using hitem⟩
  · rw [readAll, assignAll_eq] at he
    split at he
    · next item hfind =>
      cases he
      obtain ⟨hitem, before, later, hitems, hbefore⟩ := List.find?_eq_some_iff_append.1 hfind
      exact ⟨before, item, later, hitems, by simpa using hbefore, by simpa using hitem, rfl⟩
    · cases he
  · obtain ⟨-, rfl⟩ := (readAll_eq_ok_iff items data).1 hdata
    refine ⟨?_, isTextTree_assignEach [] items Value.isTextTree_empty, fun names s h => ?_⟩
    · rintro before item later rfl hlater
      exact resolve_assignEach [] before item later hlater
    · refine (exists_of_follow_assignEach [] items names s h).resolve_right ?_
      -- nothing is read in data without fields
      cases names <;> nofun

/-- A text makes way for an object, a path has blanks around it, and a text has an equals sign. Of
two malformed texts the first one is named. -/
theorem readAll_last_wins_overlapping :
    let items := ["a=1", " a.b =x=y", "a.c= 2"]
    let data : Entries Value := [("a", .object [("b", .text "x=y"), ("c", .text " 2")])]
    let malformed := ["k=v", " =x", "none"]
    readAll items = .ok data ∧
      Diverge (pathOf "a.c= 2") (pathOf " a.b =x=y") ∧
      (Value.object data).resolve (pathOf " a.b =x=y") = .text (textOf " a.b =x=y") ∧
      (∃ item ∈ items, segments (pathOf item) = ["a", "c"] ∧ textOf item = " 2") ∧
      readAll malformed = .error ⟨" =x"⟩ ∧
      ∃ before item later, malformed = before ++ item :: later ∧
        (∀ other ∈ before, ¬ IsMalformed other) ∧ IsMalformed item ∧
        Invalid.message ⟨" =x"⟩ = "Invalid assignment '" ++ item ++ "'. Expected 'key=value'" := by
  intro items data malformed
  have hdata : readAll items = .ok data := by rfl
  have hpaths : pathOf "a.c= 2" = "a.c" ∧ pathOf " a.b =x=y" = "a.b" := by decide +kernel
  have hdiverge : Diverge (pathOf "a.c= 2") (pathOf " a.b =x=y") := by
    rw [hpaths.1, hpaths.2, diverge_iff]
    decide
  have hrefused : readAll malformed = .error ⟨" =x"⟩ := by rfl
  obtain ⟨-, -, hall⟩ := readAll_last_wins items
  obtain ⟨-, hfirst, -⟩ := readAll_last_wins malformed
  obtain ⟨hread, -, htext⟩ := hall data hdata
  exact ⟨hdata, hdiverge, hread ["a=1"] " a.b =x=y" ["a.c= 2"] rfl (by simpa using hdiverge),
    htext _ _ rfl, hrefused, hfirst _ hrefused⟩

end Assignment

end Stencil
