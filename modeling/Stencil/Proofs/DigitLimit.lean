import Mathlib.Algebra.Group.Nat.Defs
import Mathlib.Data.List.Induction
import Stencil.Proofs.HereditaryValues
import Stencil.Value.Compare

/-!
# Data within the digit limit

An integer is read from and written to decimal text only up to `digitLimit` digits, and a value that
goes over that limit makes comparisons and texts fail. Here the values are told that never do:
`Value.isShort` holds of a value in which no integer has more digits than that, and no text spells
one. It is a property of the whole value, so it passes to everything that a path leads to, and all
operations on short values give a result.

## Key results

- `natOfDigits_lt`, `isShort_toNumber`: a numeral that is read is within the limit.
- `lookup_isShort`: in a scope of short values, every path reads a short value.
- `exists_number?`, `exists_display?`, `exists_text?`: short values have numbers and texts.
- `equal_ne_overlong`, `compare_ne_overlong`: comparing short values reads no numeral that is too
  long.
-/

namespace Stencil

namespace Text

/-- A digit is one of ten. -/
theorem digit?_le (c : Char) (d : Nat) (h : digit? c = some d) : d ≤ 9 := by
  unfold digit? at h
  split at h
  · split at h
    · next hdigit =>
      cases h
      have hle : c.val ≤ '9'.val := by
        simp only [Char.isDigit, Bool.and_eq_true, decide_eq_true_eq] at hdigit
        exact hdigit.2
      have hnat : c.toNat ≤ 57 := hle
      omega
    · cases h
  · obtain ⟨first, hfirst, rfl⟩ := Option.map_eq_some_iff.1 h
    -- the character is in the block of ten that the zero begins
    have hblock := List.find?_some hfirst
    simp only [Bool.and_eq_true, decide_eq_true_eq] at hblock
    omega

/-- A run of digits spells a number of no more digits. -/
theorem natOfDigits_lt (s : List Char) : natOfDigits s < 10 ^ s.length := by
  -- on the run from its end, since each digit is put behind those before it
  induction s using List.reverseRecOn with
  | nil => simp [natOfDigits]
  | append_singleton s c ih =>
    have hd : (digit? c).getD 0 ≤ 9 := by
      cases hc : digit? c with
      | none => exact Nat.zero_le _
      | some d => exact digit?_le c d hc
    have hstep : natOfDigits (s ++ [c]) = 10 * natOfDigits s + (digit? c).getD 0 := by
      simp [natOfDigits]
    rw [hstep, List.length_append, List.length_singleton, Nat.pow_succ]
    omega

end Text

namespace Number

/-- The number is no integer of too many digits. -/
def isShort : Number → Bool
  | whole n => !isOverlong n
  | binary _ => true

theorem isShort_whole (n : Int) (h : n.natAbs < 10 ^ digitLimit) : (whole n).isShort = true := by
  unfold isShort isOverlong
  -- for any limit, so that the power is never computed
  generalize digitLimit = limit at h ⊢
  rw [Bool.not_eq_true']
  exact decide_eq_false (Nat.not_le.2 h)

end Number

/-- A numeral that is read spells a short number. -/
theorem isShort_toNumber (numeral : Numeral) (n : Number) (h : numeral.toNumber = .ok n) :
    n.isShort = true := by
  unfold Numeral.toNumber at h
  split at h
  · cases h
    rfl
  · split at h
    · next hlength =>
      cases h
      have hlt := Nat.lt_of_lt_of_le (Text.natOfDigits_lt numeral.whole)
        (Nat.pow_le_pow_right (by omega) hlength)
      -- the sign does not count
      apply Number.isShort_whole
      split
      · simpa using hlt
      · simpa using hlt
    · cases h

namespace Value

/-- The text spells no integer of too many digits. -/
def spellsShort (s : String) : Bool :=
  match spelledNumber? s with
  | .ok _ => true
  | .error _ => false

mutual

/-- No integer in the value has too many digits, and no text in it spells one. -/
def isShort : Value → Bool
  | undefined | null | bool _ => true
  | number n => n.isShort
  | text s => spellsShort s
  | list items => itemsAreShort items
  | object fields => fieldsAreShort fields

def itemsAreShort : List Value → Bool
  | [] => true
  | item :: rest => item.isShort && itemsAreShort rest

def fieldsAreShort : List (String × Value) → Bool
  | [] => true
  | (_, value) :: rest => value.isShort && fieldsAreShort rest

end

theorem isShort_of_mem (items : List Value) (h : itemsAreShort items = true) :
    ∀ item ∈ items, item.isShort = true := by
  induction items with
  | nil => simp
  | cons item rest ih =>
    simp only [itemsAreShort, Bool.and_eq_true] at h
    simpa using ⟨h.1, ih h.2⟩

theorem isShort_of_get? (fields : Entries Value) (h : fieldsAreShort fields = true)
    (name : String) (value : Value) (hget : fields.get? name = some value) :
    value.isShort = true := by
  induction fields with
  | nil => cases hget
  | cons field rest ih =>
    obtain ⟨key, v⟩ := field
    simp only [fieldsAreShort, Bool.and_eq_true] at h
    rw [Entries.get?] at hget
    split at hget
    · cases hget
      exact h.1
    · exact ih h.2 hget

/-- All that is in a short value is short. -/
theorem hereditary_isShort : Hereditary fun value => value.isShort = true where
  undefined := rfl
  item items h := isShort_of_mem items h
  field fields h := isShort_of_get? fields h

end Value

/-! ## Short scopes -/

/-- All values that the paths of a scope can read are short. -/
structure Scope.IsShort (scope : Scope) : Prop where
  data : scope.data.isShort = true
  defaults : ∀ name s, scope.defaults.get? name = some s → Value.spellsShort s = true
  bindings : ∀ name value, scope.bindings.get? name = some value → value.isShort = true

namespace Scope

theorem IsShort.all (scope : Scope) (h : scope.IsShort) :
    scope.All fun value => value.isShort = true := ⟨h.data, h.defaults, h.bindings⟩

/-- Binding a short element keeps a scope short. -/
theorem bind_isShort (scope : Scope) (h : scope.IsShort) (item : String) (element : Value)
    (helement : element.isShort = true) : (scope.bind item element).IsShort := by
  obtain ⟨hdata, hdefaults, hbindings⟩ := bind_of_all scope h.all item element helement
  exact ⟨hdata, hdefaults, hbindings⟩

/-- Every path of a short scope reads a short value. -/
theorem lookup_isShort (scope : Scope) (h : scope.IsShort) (path : String) :
    (scope.lookup path).isShort = true := lookup_of_all Value.hereditary_isShort scope h.all path

end Scope

/-! ## Numbers and texts of short values -/

namespace Value

theorem exists_toText? (n : Number) (h : n.isShort = true) : ∃ s, n.toText? = .ok s := by
  cases n with
  | whole n =>
    simp only [Number.isShort, Bool.not_eq_true'] at h
    exact ⟨_, by rw [Number.toText?, h]; rfl⟩
  | binary x => exact ⟨_, rfl⟩

/-- A short value has a number or none. -/
theorem exists_number? (value : Value) (h : value.isShort = true) :
    ∃ n, value.number? = .ok n := by
  cases value with
  | text s =>
    rw [isShort, spellsShort] at h
    show ∃ n, spelledNumber? s = .ok n
    cases hs : spelledNumber? s with
    | ok n => exact ⟨n, rfl⟩
    | error e =>
      rw [hs] at h
      cases h
  | _ => exact ⟨_, rfl⟩

/-- A placeholder can be replaced by a short value. -/
theorem exists_text? (value : Value) (h : value.isShort = true) : ∃ s, value.text? = .ok s := by
  cases value with
  | number n => exact exists_toText? n h
  | _ => exact ⟨_, rfl⟩

mutual

/-- A short value can be shown in a message. -/
theorem exists_display? (value : Value) (h : value.isShort = true) :
    ∃ s, value.display? = .ok s := by
  cases value with
  | number n => exact exists_toText? n h
  | list items =>
    obtain ⟨parts, hparts⟩ := exists_displayItems? items h
    exact ⟨_, by rw [display?, hparts]; rfl⟩
  | object fields =>
    obtain ⟨parts, hparts⟩ := exists_displayFields? fields h
    exact ⟨_, by rw [display?, hparts]; rfl⟩
  | _ => exact ⟨_, rfl⟩

theorem exists_displayItems? (items : List Value) (h : itemsAreShort items = true) :
    ∃ parts, displayItems? items = .ok parts := by
  cases items with
  | nil => exact ⟨_, rfl⟩
  | cons item rest =>
    simp only [itemsAreShort, Bool.and_eq_true] at h
    obtain ⟨part, hpart⟩ := exists_display? item h.1
    obtain ⟨parts, hparts⟩ := exists_displayItems? rest h.2
    exact ⟨_, by rw [displayItems?, hpart, hparts]; rfl⟩

theorem exists_displayFields? (fields : List (String × Value))
    (h : fieldsAreShort fields = true) : ∃ parts, displayFields? fields = .ok parts := by
  cases fields with
  | nil => exact ⟨_, rfl⟩
  | cons field rest =>
    obtain ⟨name, value⟩ := field
    simp only [fieldsAreShort, Bool.and_eq_true] at h
    obtain ⟨part, hpart⟩ := exists_display? value h.1
    obtain ⟨parts, hparts⟩ := exists_displayFields? rest h.2
    exact ⟨_, by rw [displayFields?, hpart, hparts]; rfl⟩

end

/-! ## Comparing short values -/

/-- A test of the items that reads no numerals makes no test of lists that does. -/
theorem itemsAgree_ne_overlong (test : Value → Value → Except EqualFailure Bool)
    (h : ∀ left right, test left right ≠ .error .overlong) (items others : List Value) :
    itemsAgree test items others ≠ .error .overlong := by
  induction items generalizing others with
  | nil => cases others <;> exact fun h => by cases h
  | cons item rest ih =>
    cases others with
    | nil => exact fun h => by cases h
    | cons other others =>
      unfold itemsAgree
      have hitem := h item other
      cases ht : test item other with
      | error e => exact fun he => hitem (ht.trans he)
      | ok agree =>
        cases agree with
        | true => exact ih others
        | false => exact fun h => by cases h

/-- A test of the fields that reads no numerals makes no test of objects that does. -/
theorem fieldsAgree_ne_overlong (test : Value → Value → Except EqualFailure Bool)
    (h : ∀ left right, test left right ≠ .error .overlong) (fields others : Entries Value) :
    fieldsAgree test fields others ≠ .error .overlong := by
  induction fields with
  | nil => exact fun h => by cases h
  | cons field rest ih =>
    obtain ⟨name, value⟩ := field
    unfold fieldsAgree
    cases others.get? name with
    | none => exact fun h => by cases h
    | some other =>
      have hvalue := h value other
      dsimp only
      cases ht : test value other with
      | error e => exact fun he => hvalue (ht.trans he)
      | ok agree =>
        cases agree with
        | true => exact ih
        | false => exact fun h => by cases h

/-- Strict equality reads no numerals. -/
theorem sameWithin_ne_overlong (room : Nat) (left right : Value) :
    left.sameWithin room right ≠ .error .overlong := by
  induction room generalizing left right with
  | zero =>
    unfold sameWithin
    split <;> exact fun h => by cases h
  | succ room ih =>
    unfold sameWithin
    split
    · dsimp only
      split
      · exact itemsAgree_ne_overlong _ ih _ _
      · exact fun h => by cases h
    · dsimp only
      split
      · exact fieldsAgree_ne_overlong _ ih _ _
      · exact fun h => by cases h
    · exact fun h => by cases h

/-- Short values are equal or not, unless strict equality has no answer for another reason. -/
theorem equalBy_ne_overlong (strict : Value → Value → Except EqualFailure Bool)
    (left right : Value) (hl : left.isShort = true) (hr : right.isShort = true)
    (hstrict : strict left right ≠ .error .overlong) :
    equalBy strict left right ≠ .error .overlong := by
  obtain ⟨m, hm⟩ := exists_number? left hl
  obtain ⟨n, hn⟩ := exists_number? right hr
  have hcontent : equalContent strict left right ≠ .error .overlong := by
    unfold equalContent
    split
    · exact fun h => by cases h
    · rw [hm, hn]
      cases m with
      | none => exact hstrict
      | some m =>
        cases n with
        | none => exact hstrict
        | some n => exact fun h => by cases h
  unfold equalBy
  split
  · exact fun h => by cases h
  · split
    · exact fun h => by cases h
    · exact fun h => by cases h
    · exact fun h => by cases h
    · exact fun h => by cases h
    · exact fun h => by cases h
    · exact hcontent

theorem equal_ne_overlong (left right : Value) (hl : left.isShort = true)
    (hr : right.isShort = true) : left.equal right ≠ .error .overlong :=
  equalBy_ne_overlong _ left right hl hr (sameWithin_ne_overlong _ left right)

theorem equalSelf_ne_overlong (v : Value) (h : v.isShort = true) :
    v.equalSelf ≠ .error .overlong := by
  refine equalBy_ne_overlong _ v v h h ?_
  cases v with
  | list items => exact itemsAgree_ne_overlong _ (fun _ _ h => by cases h) items items
  | object fields => exact fieldsAgree_ne_overlong _ (fun _ _ h => by cases h) fields fields
  | _ => exact fun h => by cases h

/-- That short values have no order can be reported. -/
theorem exists_incomparable (left right : Value) (hl : left.isShort = true)
    (hr : right.isShort = true) (operator : String) :
    ∃ e, incomparable left right operator = .refused e := by
  obtain ⟨l, hdl⟩ := exists_display? left hl
  obtain ⟨r, hdr⟩ := exists_display? right hr
  exact ⟨.incomparable l operator r, by rw [incomparable, hdl, hdr]⟩

/-- Comparing short values fails for a reason that can be reported, if at all. -/
theorem compare_ne_overlong (left right : Value) (hl : left.isShort = true)
    (hr : right.isShort = true) (operator : String) :
    left.compare right operator ≠ .error .overlong := by
  obtain ⟨m, hm⟩ := exists_number? left hl
  obtain ⟨n, hn⟩ := exists_number? right hr
  obtain ⟨e, hincomparable⟩ := exists_incomparable left right hl hr operator
  have horder : left.order right operator ≠ .error .overlong := by
    unfold order
    rw [hm, hn]
    intro h
    split at h
    · cases h
    · split at h
      · cases h
      · rw [hincomparable] at h
        cases h
    · next hnot => exact hnot _ _ rfl rfl
  intro h
  unfold compare at h
  cases ho : left.order right operator with
  | error e =>
    rw [ho] at h horder
    cases e with
    | refused error => cases h
    | overlong => exact horder rfl
  | ok o =>
    rw [ho] at h
    cases hs : Relation.orderOfSymbol? operator with
    | some rel =>
      rw [hs] at h
      cases h
    | none =>
      rw [hs] at h
      cases h

end Value

end Stencil
