import Mathlib.Data.List.Perm.Subperm
import Stencil.Proofs.ComparisonDepth
import Stencil.Proofs.DistinctNames
import Stencil.Proofs.NumberOrder

/-!
# Equality of values

Equality in a condition asks for the kinds of both sides in turn: whether one is nullish, whether
one is a truth value, whether both are or spell numbers. It comes to the same whichever side is
asked first, and whatever the answer is, the refusal of a long numeral among them. Strict equality,
which is used for the contents of lists and objects, is symmetric by induction on the left value.
For objects that needs a count: the fields of one object are found in the other one, both have the
same number of them, and no object names a field twice (`Value.namesOnce`), so that no field of the
other one is left over.

All that needs room on the stack (`comparisonLimit`). One side that fits is enough, and a value that
stands on both sides needs none. If both are too deep, the order of the sides can matter
(`equal_ne_of_too_deep`).

## Key results

- `induct`: induction on what is in a value.
- `sameFields_swap`: the fields of two objects of one size can be looked up either way.
- `same_comm`, `same_self`: strict equality is symmetric and reflexive.
- `equal_comm_and_self`: so is equality in a condition, but for "not a number" and for values that
  are too deep.
-/

namespace Stencil

namespace Value

/-! ## Values without repeated names -/

mutual

/-- No object in the value has two fields of one name. So it is with every value that is read from a
document. -/
def namesOnce : Value → Bool
  | undefined | null | bool _ | number _ | text _ => true
  | list items => itemsNameOnce items
  | object fields => decide (Entries.keys fields).Nodup && fieldsNameOnce fields

def itemsNameOnce : List Value → Bool
  | [] => true
  | item :: rest => item.namesOnce && itemsNameOnce rest

def fieldsNameOnce : List (String × Value) → Bool
  | [] => true
  | (_, value) :: rest => value.namesOnce && fieldsNameOnce rest

end

theorem itemsNameOnce_iff (items : List Value) :
    itemsNameOnce items = true ↔ ∀ item ∈ items, item.namesOnce = true := by
  induction items with
  | nil => simp [itemsNameOnce]
  | cons item rest ih => simp [itemsNameOnce, ih]

theorem fieldsNameOnce_iff (fields : List (String × Value)) :
    fieldsNameOnce fields = true ↔ ∀ field ∈ fields, field.2.namesOnce = true := by
  induction fields with
  | nil => simp [fieldsNameOnce]
  | cons field rest ih => simp [fieldsNameOnce, ih]

theorem namesOnce_list (items : List Value) :
    (list items).namesOnce = true ↔ ∀ item ∈ items, item.namesOnce = true := by
  rw [namesOnce, itemsNameOnce_iff]

theorem namesOnce_object (fields : List (String × Value)) :
    (object fields).namesOnce = true ↔
      (Entries.keys fields).Nodup ∧ ∀ field ∈ fields, field.2.namesOnce = true := by
  rw [namesOnce, Bool.and_eq_true, decide_eq_true_eq, fieldsNameOnce_iff]

/-! ## Induction on what is in a value -/

/-- The value has neither items nor fields. -/
def isScalar : Value → Bool
  | list _ | object _ => false
  | _ => true

/-- What holds of scalars, of lists if it holds of their items, and of objects if it holds of their
fields, holds of all values. -/
theorem induct {P : Value → Prop} (scalar : ∀ v, v.isScalar = true → P v)
    (ofItems : ∀ items, (∀ item ∈ items, P item) → P (list items))
    (ofFields : ∀ fields, (∀ field ∈ fields, P field.2) → P (object fields)) (v : Value) : P v := by
  cases v with
  | list items => exact ofItems items fun item _ => induct scalar ofItems ofFields item
  | object fields => exact ofFields fields fun field _ => induct scalar ofItems ofFields field.2
  | _ => exact scalar _ rfl
termination_by sizeOf v
decreasing_by
  · next hitem =>
    have hlt := List.sizeOf_lt_of_mem hitem
    simp only [list.sizeOf_spec]
    omega
  · next hfield =>
    have hlt := List.sizeOf_lt_of_mem hfield
    have hpart : sizeOf field = 1 + sizeOf field.1 + sizeOf field.2 := rfl
    simp only [object.sizeOf_spec]
    omega

/-! ## Strict equality -/

theorem sameItems_comm (items others : List Value)
    (h : ∀ item ∈ items, ∀ other ∈ others, item.same other = other.same item) :
    sameItems items others = sameItems others items := by
  induction items generalizing others with
  | nil => cases others <;> rfl
  | cons item rest ih =>
    cases others with
    | nil => rfl
    | cons other others =>
      rw [sameItems, sameItems, h item List.mem_cons_self other List.mem_cons_self,
        ih others fun a ha b hb => h a (List.mem_cons_of_mem _ ha) b (List.mem_cons_of_mem _ hb)]

theorem sameItems_self (items : List Value) (h : ∀ item ∈ items, item.same item = true) :
    sameItems items items = true := by
  induction items with
  | nil => rfl
  | cons item rest ih =>
    rw [sameItems, h item List.mem_cons_self, ih fun a ha => h a (List.mem_cons_of_mem _ ha)]
    rfl

/-- Each field is found in the other object, with the same value. -/
theorem sameFields_iff (fields others : Entries Value) :
    sameFields fields others = true ↔
      ∀ field ∈ fields, ∃ other, others.get? field.1 = some other ∧
        field.2.same other = true := by
  induction fields with
  | nil => simp [sameFields]
  | cons field rest ih =>
    obtain ⟨name, value⟩ := field
    rw [sameFields, List.forall_mem_cons, ← ih]
    cases others.get? name <;> simp

/-- The fields of two objects of one size can be looked up either way. -/
theorem sameFields_swap (fields others : Entries Value) (hfields : fields.keys.Nodup)
    (hothers : others.keys.Nodup) (hlength : fields.length = others.length)
    (hswap : ∀ field ∈ fields, ∀ other ∈ others,
      field.2.same other.2 = true → other.2.same field.2 = true)
    (h : sameFields fields others = true) : sameFields others fields = true := by
  rw [sameFields_iff] at h ⊢
  -- every name of the one is a name of the other, and there are as many of them
  have hsub : fields.keys ⊆ others.keys := by
    intro name hname
    obtain ⟨field, hfield, rfl⟩ := List.mem_map.1 hname
    obtain ⟨other, hget, -⟩ := h field hfield
    exact List.mem_map.2 ⟨_, Entries.mem_of_get? others field.1 other hget, rfl⟩
  have hperm : fields.keys.Perm others.keys :=
    (List.subperm_of_subset hfields hsub).perm_of_length_le (by simp [Entries.keys, hlength])
  rintro ⟨name, value⟩ hmem
  have hname : name ∈ fields.keys := hperm.mem_iff.2 (List.mem_map_of_mem hmem)
  obtain ⟨field, hfield, rfl⟩ := List.mem_map.1 hname
  obtain ⟨other, hget, hsame⟩ := h field hfield
  rw [Entries.get?_eq_some_of_mem others hothers _ value hmem] at hget
  cases hget
  exact ⟨field.2, Entries.get?_eq_some_of_mem fields hfields _ _ hfield,
    hswap field hfield _ hmem hsame⟩

theorem sameFields_self (fields : Entries Value) (hfields : fields.keys.Nodup)
    (h : ∀ field ∈ fields, field.2.same field.2 = true) : sameFields fields fields = true :=
  (sameFields_iff fields fields).2 fun field hfield =>
    ⟨field.2, Entries.get?_eq_some_of_mem fields hfields _ _ hfield, h field hfield⟩

/-- Scalars are compared by their kinds and by the numbers that they stand for. -/
theorem same_comm_of_isScalar (left right : Value) (h : left.isScalar = true) :
    left.same right = right.same left := by
  cases left with
  | list items => cases h
  | object fields => cases h
  | _ => cases right <;> simp [same, inner?, Number.same_comm, BEq.comm]

/-- Strict equality is symmetric. -/
theorem same_comm (left right : Value) (hl : left.namesOnce = true) (hr : right.namesOnce = true) :
    left.same right = right.same left := by
  induction left using induct generalizing right with
  | scalar v hv => exact same_comm_of_isScalar v right hv
  | ofItems items ih =>
    cases right with
    | list others =>
      rw [namesOnce_list] at hl hr
      rw [same, same]
      exact sameItems_comm items others fun item hitem other hother =>
        ih item hitem other (hl item hitem) (hr other hother)
    | object others => rfl
    | _ => exact (same_comm_of_isScalar _ _ rfl).symm
  | ofFields fields ih =>
    cases right with
    | object others =>
      rw [namesOnce_object] at hl hr
      -- fields of either side are the same whichever side is on the left
      have hswap : ∀ field ∈ fields, ∀ other ∈ others,
          field.2.same other.2 = other.2.same field.2 := fun field hfield other hother =>
        ih field hfield other.2 (hl.2 field hfield) (hr.2 other hother)
      rw [same, same, Bool.eq_iff_iff, Bool.and_eq_true, Bool.and_eq_true, beq_iff_eq, beq_iff_eq]
      constructor
      · rintro ⟨hlength, hfields⟩
        refine ⟨hlength.symm, sameFields_swap fields others hl.1 hr.1 hlength ?_ hfields⟩
        exact fun field hfield other hother h => hswap field hfield other hother ▸ h
      · rintro ⟨hlength, hothers⟩
        refine ⟨hlength.symm, sameFields_swap others fields hr.1 hl.1 hlength ?_ hothers⟩
        exact fun other hother field hfield h => (hswap field hfield other hother).symm ▸ h
    | list others => rfl
    | _ => exact (same_comm_of_isScalar _ _ rfl).symm

/-- Strict equality is reflexive. -/
theorem same_self (v : Value) (h : v.namesOnce = true) : v.same v = true := by
  induction v using induct with
  | scalar v hv =>
    cases v with
    | list items => cases hv
    | object fields => cases hv
    | _ => simp [same, inner?, Number.same_self]
  | ofItems items ih =>
    rw [namesOnce_list] at h
    exact sameItems_self items fun item hitem => ih item hitem (h item hitem)
  | ofFields fields ih =>
    rw [namesOnce_object] at h
    rw [same, sameFields_self fields h.1 fun field hfield => ih field hfield (h.2 field hfield)]
    simp

/-! ## Equality in a condition -/

/-- But for two texts, numbers and texts that spell numbers are equal as numbers, and all else is
compared strictly. -/
theorem equalContent_eq (strict : Value → Value → Except EqualFailure Bool) (left right : Value)
    (h : ¬ ∃ s t, left = text s ∧ right = text t) :
    equalContent strict left right =
      match left.number?, right.number? with
      | .ok m, .ok n =>
        match m, n with
        | some m, some n => .ok (m.equal n)
        | _, _ => strict left right
      | _, _ => .error .overlong := by
  unfold equalContent
  split
  · next s t => exact absurd ⟨s, t, rfl, rfl⟩ h
  · rfl

theorem equalContent_comm (strict : Value → Value → Except EqualFailure Bool) (left right : Value)
    (hstrict : strict left right = strict right left) :
    equalContent strict left right = equalContent strict right left := by
  by_cases htexts : ∃ s t, left = text s ∧ right = text t
  · obtain ⟨s, t, rfl, rfl⟩ := htexts
    exact congrArg Except.ok BEq.comm
  · have htexts' : ¬ ∃ s t, right = text s ∧ left = text t := fun ⟨s, t, hs, ht⟩ =>
      htexts ⟨t, s, ht, hs⟩
    rw [equalContent_eq _ _ _ htexts, equalContent_eq _ _ _ htexts', hstrict]
    -- there is only one refusal, so it does not matter which side is read first
    cases left.number? with
    | error e => cases right.number? <;> rfl
    | ok m =>
      cases right.number? with
      | error e => rfl
      | ok n =>
        cases m with
        | none => cases n <;> rfl
        | some m =>
          cases n with
          | none => rfl
          | some n => exact congrArg Except.ok (m.equal_comm n)

/-- A truth value equals itself and the text of itself, from either side. -/
theorem equalBy_bool_comm (strict : Value → Value → Except EqualFailure Bool) (b : Bool)
    (v : Value) : equalBy strict v (bool b) = equalBy strict (bool b) v := by
  cases v <;> simp [equalBy, isNullish, BEq.comm]

/-- Without truth values, what is nullish equals what is nullish, and the contents of all else are
compared. -/
theorem equalBy_of_not_bool (strict : Value → Value → Except EqualFailure Bool)
    (left right : Value) (hl : ∀ b, left ≠ bool b) (hr : ∀ b, right ≠ bool b) :
    equalBy strict left right =
      if left.isNullish || right.isNullish then .ok (left.isNullish && right.isNullish)
      else equalContent strict left right := by
  unfold equalBy
  split
  · rfl
  · split
    · exact absurd rfl (hl _)
    · exact absurd rfl (hl _)
    · exact absurd rfl (hr _)
    · exact absurd rfl (hl _)
    · exact absurd rfl (hr _)
    · rfl

/-- Equality is symmetric where strict equality is. -/
theorem equalBy_comm (strict : Value → Value → Except EqualFailure Bool) (left right : Value)
    (hstrict : strict left right = strict right left) :
    equalBy strict left right = equalBy strict right left := by
  by_cases hleft : ∃ b, left = bool b
  · obtain ⟨b, rfl⟩ := hleft
    exact (equalBy_bool_comm strict b right).symm
  by_cases hright : ∃ b, right = bool b
  · obtain ⟨b, rfl⟩ := hright
    exact equalBy_bool_comm strict b left
  have hnot : ∀ v : Value, (¬ ∃ b, v = bool b) → ∀ b, v ≠ bool b := fun v h b hv => h ⟨b, hv⟩
  rw [equalBy_of_not_bool _ _ _ (hnot left hleft) (hnot right hright),
    equalBy_of_not_bool _ _ _ (hnot right hright) (hnot left hleft),
    equalContent_comm strict left right hstrict, Bool.or_comm, Bool.and_comm]

theorem equal_comm (left right : Value) (hl : left.namesOnce = true)
    (hr : right.namesOnce = true)
    (hdepth : left.depth ≤ comparisonLimit ∨ right.depth ≤ comparisonLimit) :
    left.equal right = right.equal left := by
  refine equalBy_comm _ left right ?_
  rw [sameWithin_eq _ _ _ hdepth, sameWithin_eq _ _ _ hdepth.symm, same_comm left right hl hr]

/-- The value is "not a number". -/
def isNaN : Value → Bool
  | number n => n.isNaN
  | _ => false

/-- A value equals itself where lists and objects strictly do, unless it is "not a number". -/
theorem equalBy_self (strict : Value → Value → Except EqualFailure Bool) (v : Value)
    (hstrict : v.isScalar = true ∨ strict v v = .ok true) :
    equalBy strict v v = .ok (!v.isNaN) := by
  cases v with
  | number n => exact congrArg Except.ok n.equal_self
  | list items => exact hstrict.resolve_left nofun
  | object fields => exact hstrict.resolve_left nofun
  | undefined => rfl
  | null => rfl
  | bool b => exact congrArg Except.ok (beq_self_eq_true b)
  | text s => exact congrArg Except.ok (beq_self_eq_true s)

theorem equal_self (v : Value) (h : v.namesOnce = true) (hdepth : v.depth ≤ comparisonLimit) :
    v.equal v = .ok (!v.isNaN) :=
  equalBy_self _ v (.inr (by rw [sameWithin_eq _ _ _ (.inl hdepth), same_self v h]))

/-- Items that are seen to be equal at once agree, however many there are. -/
theorem itemsAgree_self (items : List Value) :
    itemsAgree (fun _ _ => .ok true) items items = .ok true := by
  induction items with
  | nil => rfl
  | cons item rest ih => exact ih

/-- Fields that are seen to be equal at once agree, if all their names are on the other side. -/
theorem fieldsAgree_of_mem_keys (fields others : Entries Value)
    (h : ∀ field ∈ fields, field.1 ∈ others.keys) :
    fieldsAgree (fun _ _ => .ok true) fields others = .ok true := by
  induction fields with
  | nil => rfl
  | cons field rest ih =>
    obtain ⟨name, value⟩ := field
    rw [fieldsAgree]
    cases hother : others.get? name with
    | none =>
      exact absurd (h _ List.mem_cons_self) ((Entries.get?_eq_none_iff others name).1 hother)
    | some other => exact ih fun field hmem => h field (List.mem_cons_of_mem _ hmem)

theorem equalSelf_eq (v : Value) : v.equalSelf = .ok (!v.isNaN) := by
  refine equalBy_self _ v ?_
  cases v with
  | list items => exact .inr (itemsAgree_self items)
  | object fields =>
    exact .inr (fieldsAgree_of_mem_keys fields fields fun _ hmem => List.mem_map_of_mem hmem)
  | _ => exact .inl rfl

/-- **Equality is symmetric and reflexive.** Two values in which no object names a field twice give
the same answer from either side, be it a truth value or the refusal of a numeral that is too long,
if one of them is not too deep to be compared. Every such value equals one that is just like it, and
a value of any depth equals itself where it stands twice, unless it is "not a number". -/
theorem equal_comm_and_self :
    (∀ left right : Value, left.namesOnce = true → right.namesOnce = true →
      left.depth ≤ comparisonLimit ∨ right.depth ≤ comparisonLimit →
      left.equal right = right.equal left) ∧
    (∀ v : Value, v.namesOnce = true → v.depth ≤ comparisonLimit →
      (v.equal v = .ok true ↔ v.isNaN = false)) ∧
    ∀ v : Value, v.equalSelf = .ok true ↔ v.isNaN = false := by
  refine ⟨equal_comm, fun v h hdepth => ?_, fun v => ?_⟩
  · rw [equal_self v h hdepth]
    cases v.isNaN <;> simp
  · rw [equalSelf_eq]
    cases v.isNaN <;> simp

/-- Two objects with their fields in different orders, a truth value in the one and the number that
it stands for in the other. -/
theorem equal_comm_and_self_reordered :
    let left : Value := object [("a", list [bool true, null]), ("b", int 2)]
    let right : Value := object [("b", int 2), ("a", list [int 1, null])]
    left.namesOnce = true ∧ right.namesOnce = true ∧
      (left.depth ≤ comparisonLimit ∨ right.depth ≤ comparisonLimit) ∧
      left.depth ≤ comparisonLimit ∧ left.isNaN = false ∧
      left.equal right = right.equal left ∧ left.equal left = .ok true ∧
      left.equalSelf = .ok true := by
  intro left right
  have hleft : left.namesOnce = true := by decide
  have hright : right.namesOnce = true := by decide
  have hdepth : left.depth ≤ comparisonLimit := by decide
  exact ⟨hleft, hright, .inl hdepth, hdepth, rfl,
    equal_comm_and_self.1 left right hleft hright (.inl hdepth),
    (equal_comm_and_self.2.1 left hleft hdepth).2 rfl, (equal_comm_and_self.2.2 left).2 rfl⟩

theorem namesOnce_nested (n : Nat) (v : Value) (h : v.namesOnce = true) :
    (nested n v).namesOnce = true := by
  induction n with
  | zero => exact h
  | succ n ih => exact (namesOnce_object _).2 ⟨List.nodup_singleton _, by simpa using ih⟩

/-- Two objects that differ in one field and are too deep in the other one. There is no answer if
the deep field comes first on the left, and there is one from the other side; nor is there one for
the left object and another that is just like it. -/
theorem equal_ne_of_too_deep :
    let deep : Value := nested 3000 (int 1)
    let left : Value := object [("p", deep), ("q", int 1)]
    let right : Value := object [("q", int 2), ("p", deep)]
    left.namesOnce = true ∧ right.namesOnce = true ∧ left.isNaN = false ∧
      left.equal right = .error .tooDeep ∧ right.equal left = .ok false ∧
      left.equal left = .error .tooDeep := by
  intro deep left right
  have hnames : deep.namesOnce = true := namesOnce_nested 3000 (int 1) rfl
  have hdeep : deep.sameWithin 959 deep = .error .tooDeep :=
    sameWithin_nested 959 3000 3000 _ _ (by decide) (by decide)
  have hdiffer : (int 2).sameWithin 959 (int 1) = .ok false := by decide
  have hpq : ["p", "q"].Nodup := by decide
  have hqp : ["q", "p"].Nodup := by decide
  refine ⟨?_, ?_, rfl, ?_, ?_, ?_⟩
  · exact (namesOnce_object _).2
      ⟨hpq, List.forall_mem_cons.2 ⟨hnames, List.forall_mem_singleton.2 rfl⟩⟩
  · exact (namesOnce_object _).2
      ⟨hqp, List.forall_mem_cons.2 ⟨rfl, List.forall_mem_singleton.2 hnames⟩⟩
  · show (do
      if ← deep.sameWithin 959 deep then fieldsAgree _ _ _ else return false) = _
    rw [hdeep]
    rfl
  · show (do
      if ← (int 2).sameWithin 959 (int 1) then fieldsAgree _ _ _ else return false) = _
    rw [hdiffer]
    rfl
  · show (do
      if ← deep.sameWithin 959 deep then fieldsAgree _ _ _ else return false) = _
    rw [hdeep]
    rfl

end Value

end Stencil
