/-!
# Ordered entries

A mapping from names to values that remembers the order in which its names were first entered.
It is a list of pairs; `put` keeps the place of a name that is already there and adds a new name at
the end, so a list built by `put` alone names nothing twice.

* `get?_put_self`, `get?_put_of_ne`: what is read after a write;
* `keys_put`: a write adds its name at the end, or changes no name;
* `mem_of_get?`: what is read was entered;
* `get?_eq_none_iff`: nothing is read under a name that was never entered.
-/

namespace Stencil

/-- Named values, in the order of their names' first entry. -/
abbrev Entries (α : Type _) := List (String × α)

namespace Entries

variable {α : Type _}

/-- The value entered under a name. -/
def get? : Entries α → String → Option α
  | [], _ => none
  | (k, v) :: rest, key => if k = key then some v else get? rest key

/-- The names, in order. -/
def keys (es : Entries α) : List String := es.map (·.1)

/-- Enters a value: in place of the one already under the name, else at the end. -/
def put : Entries α → String → α → Entries α
  | [], key, value => [(key, value)]
  | (k, v) :: rest, key, value =>
    if k = key then (k, value) :: rest else (k, v) :: put rest key value

/-- The entries of a list of pairs: a name that comes again replaces the earlier value. -/
def ofPairs (pairs : List (String × α)) : Entries α :=
  pairs.foldl (fun es (k, v) => put es k v) []

@[simp] theorem get?_nil (key : String) : get? ([] : Entries α) key = none := rfl

@[simp] theorem get?_put_self (es : Entries α) (key : String) (value : α) :
    (es.put key value).get? key = some value := by
  induction es with
  | nil => simp [put, get?]
  | cons e rest ih =>
    obtain ⟨k, v⟩ := e
    by_cases h : k = key <;> simp [put, get?, h, ih]

theorem get?_put_of_ne (es : Entries α) {key other : String} (value : α) (h : other ≠ key) :
    (es.put key value).get? other = es.get? other := by
  induction es with
  | nil => simp [put, get?, Ne.symm h]
  | cons e rest ih =>
    obtain ⟨k, v⟩ := e
    by_cases hk : k = key
    · subst hk
      simp [put, get?, Ne.symm h]
    · by_cases ho : k = other
      · subst ho
        simp [put, get?, hk]
      · simp [put, get?, hk, ho, ih]

theorem keys_put (es : Entries α) (key : String) (value : α) :
    (es.put key value).keys = if key ∈ es.keys then es.keys else es.keys ++ [key] := by
  induction es with
  | nil => simp [put, keys]
  | cons e rest ih =>
    obtain ⟨k, v⟩ := e
    by_cases hk : k = key
    · subst hk
      simp [put, keys]
    · simp only [keys] at ih
      by_cases hm : key ∈ rest.map (·.1) <;> simp [put, keys, hk, Ne.symm hk, ih, hm]

theorem mem_of_get? (es : Entries α) (key : String) (value : α) (h : es.get? key = some value) :
    (key, value) ∈ es := by
  induction es with
  | nil => cases h
  | cons e rest ih =>
    obtain ⟨k, v⟩ := e
    rw [get?] at h
    split at h
    · next hk =>
      cases h
      rw [hk]
      exact List.mem_cons_self
    · exact List.mem_cons_of_mem _ (ih h)

theorem get?_eq_none_iff (es : Entries α) (key : String) : es.get? key = none ↔ key ∉ es.keys := by
  induction es with
  | nil => simp [keys]
  | cons e rest ih =>
    obtain ⟨k, v⟩ := e
    by_cases hk : k = key
    · simp [get?, keys, hk]
    · simp only [keys] at ih
      simp [get?, keys, hk, Ne.symm hk, ih]

end Entries

end Stencil
