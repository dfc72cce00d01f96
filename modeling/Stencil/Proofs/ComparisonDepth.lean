import Stencil.Value.Compare

/-!
# How deep values are compared

Strict equality is found out list by list and object by object, and there is room for so many in one
another. With enough room the answer is that of `Value.same`; it is enough that one of the two
values fits, since nothing is looked into that only one side has. Without it there need not be an
answer, and whether there is one may depend on which side is asked first: the fields of the left
object are gone through in their order, and a field that differs may come before or after the one
that is too deep.

## Key results

- `sameWithin_eq`: with enough room for one of the sides, the answer is that of `same`.
- `sameWithin_nested`: values that are too deep on both sides.
-/

namespace Stencil.Value

/-! ## Depth -/

mutual

/-- How many lists and objects stand in one another. -/
def depth : Value → Nat
  | list items => itemsDepth items + 1
  | object fields => fieldsDepth fields + 1
  | _ => 0

def itemsDepth : List Value → Nat
  | [] => 0
  | item :: rest => max item.depth (itemsDepth rest)

def fieldsDepth : List (String × Value) → Nat
  | [] => 0
  | (_, value) :: rest => max value.depth (fieldsDepth rest)

end

theorem depth_le_itemsDepth (items : List Value) (item : Value) (h : item ∈ items) :
    item.depth ≤ itemsDepth items := by
  induction items with
  | nil => cases h
  | cons first rest ih =>
    rw [itemsDepth]
    rcases List.mem_cons.1 h with rfl | h
    · exact Nat.le_max_left _ _
    · exact Nat.le_trans (ih h) (Nat.le_max_right _ _)

theorem depth_le_fieldsDepth (fields : List (String × Value)) (field : String × Value)
    (h : field ∈ fields) : field.2.depth ≤ fieldsDepth fields := by
  induction fields with
  | nil => cases h
  | cons first rest ih =>
    rw [fieldsDepth]
    rcases List.mem_cons.1 h with rfl | h
    · exact Nat.le_max_left _ _
    · exact Nat.le_trans (ih h) (Nat.le_max_right _ _)

/-! ## With enough room -/

/-- Items are told apart as by `same` if each pair of them is. -/
theorem itemsAgree_eq (test : Value → Value → Except EqualFailure Bool)
    (items others : List Value)
    (h : ∀ item ∈ items, ∀ other ∈ others, test item other = .ok (item.same other)) :
    itemsAgree test items others = .ok (sameItems items others) := by
  induction items generalizing others with
  | nil => cases others <;> rfl
  | cons item rest ih =>
    cases others with
    | nil => rfl
    | cons other others =>
      rw [itemsAgree, sameItems, h item List.mem_cons_self other List.mem_cons_self]
      cases item.same other with
      | false => rfl
      | true =>
        exact ih others fun a ha b hb =>
          h a (List.mem_cons_of_mem _ ha) b (List.mem_cons_of_mem _ hb)

/-- Fields are told apart as by `same` if each pair of them is. -/
theorem fieldsAgree_eq (test : Value → Value → Except EqualFailure Bool)
    (fields others : Entries Value)
    (h : ∀ field ∈ fields, ∀ other ∈ others, test field.2 other.2 = .ok (field.2.same other.2)) :
    fieldsAgree test fields others = .ok (sameFields fields others) := by
  induction fields with
  | nil => rfl
  | cons field rest ih =>
    obtain ⟨name, value⟩ := field
    rw [fieldsAgree, sameFields]
    cases hother : others.get? name with
    | none => rfl
    | some other =>
      have hmem := Entries.mem_of_get? others name other hother
      dsimp only
      rw [h (name, value) List.mem_cons_self (name, other) hmem]
      cases value.same other with
      | false => rfl
      | true =>
        exact ih fun a ha => h a (List.mem_cons_of_mem _ ha)

theorem sameItems_of_length_ne (items others : List Value) (h : items.length ≠ others.length) :
    sameItems items others = false := by
  induction items generalizing others with
  | nil =>
    cases others with
    | nil => exact absurd rfl h
    | cons other others => rfl
  | cons item rest ih =>
    cases others with
    | nil => rfl
    | cons other others =>
      rw [sameItems, ih others fun hlength => h (congrArg (· + 1) hlength), Bool.and_false]

/-- With enough room for one of two values, it is found out whether they are the same. -/
theorem sameWithin_eq (room : Nat) (left right : Value)
    (h : left.depth ≤ room ∨ right.depth ≤ room) :
    left.sameWithin room right = .ok (left.same right) := by
  -- what is in a list or an object has room for one less, and so is one less deep
  induction room generalizing left right with
  | zero =>
    unfold sameWithin
    split
    · rw [depth, depth] at h
      omega
    · rw [depth, depth] at h
      omega
    · rfl
  | succ room ih =>
    unfold sameWithin
    split
    · next items others =>
      rw [depth, depth] at h
      have hitems : ∀ item ∈ items, ∀ other ∈ others,
          item.sameWithin room other = .ok (item.same other) := by
        intro item hitem other hother
        have hl := depth_le_itemsDepth items item hitem
        have hr := depth_le_itemsDepth others other hother
        exact ih item other (by omega)
      rw [same]
      by_cases hlength : items.length = others.length
      · exact (if_pos hlength).trans (itemsAgree_eq _ items others hitems)
      · rw [sameItems_of_length_ne items others hlength]
        exact if_neg hlength
    · next fields others =>
      rw [depth, depth] at h
      have hfields : ∀ field ∈ fields, ∀ other ∈ others,
          field.2.sameWithin room other.2 = .ok (field.2.same other.2) := by
        intro field hfield other hother
        have hl := depth_le_fieldsDepth fields field hfield
        have hr := depth_le_fieldsDepth others other hother
        exact ih field.2 other.2 (by omega)
      rw [same]
      by_cases hlength : fields.length = others.length
      · rw [beq_iff_eq.2 hlength, Bool.true_and]
        exact (if_pos hlength).trans (fieldsAgree_eq _ fields others hfields)
      · rw [beq_false_of_ne hlength, Bool.false_and]
        exact if_neg hlength
    · rfl

/-! ## Without it -/

/-- An object with one field in an object with one field, and so on, around a value. -/
def nested : Nat → Value → Value
  | 0, v => v
  | n + 1, v => object [("a", nested n v)]

/-- Two values that are both deeper than there is room. -/
theorem sameWithin_nested (room m n : Nat) (v w : Value) (hm : room < m) (hn : room < n) :
    (nested m v).sameWithin room (nested n w) = .error .tooDeep := by
  induction room generalizing m n with
  | zero =>
    obtain ⟨m, rfl⟩ := Nat.exists_eq_add_of_lt hm
    obtain ⟨n, rfl⟩ := Nat.exists_eq_add_of_lt hn
    rw [Nat.zero_add, Nat.zero_add, nested, nested, sameWithin]
  | succ room ih =>
    obtain ⟨m, rfl⟩ := Nat.exists_eq_add_one_of_ne_zero (Nat.ne_zero_of_lt hm)
    obtain ⟨n, rfl⟩ := Nat.exists_eq_add_one_of_ne_zero (Nat.ne_zero_of_lt hn)
    have hinside := ih m n (Nat.lt_of_succ_lt_succ hm) (Nat.lt_of_succ_lt_succ hn)
    show (do
      if ← (nested m v).sameWithin room (nested n w) then fieldsAgree _ [] _ else return false) = _
    rw [hinside]
    rfl

end Stencil.Value
