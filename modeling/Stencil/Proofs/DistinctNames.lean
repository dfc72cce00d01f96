import Mathlib.Data.List.Induction
import Mathlib.Data.List.Nodup
import Stencil.Entries

/-!
# Mappings that name nothing twice

Entries that were put one after another name nothing twice, and hold no other entries than those
that were put. In entries of this kind a look-up and a membership say the same, and putting them
again one after another gives them back. When one of them is laid over another, what is read is what
the upper one has, or else what the lower one has.

## Key results

- `get?_eq_some_of_mem`: each entry is what is read under its name.
- `nodup_keys_ofPairs`, `mem_of_mem_ofPairs`: what is made of pairs.
- `ofPairs_of_nodup`: pairs that name nothing twice are a mapping as they are.
- `get?_ofPairs_append`: the entries of one mapping laid over another.
- `get?_map`, `get?_filter`: what is read when values have been changed or left out.
- `put_put_self`, `put_put_comm_of_mem`: two entries one after another.
-/

namespace Stencil.Entries

variable {α β : Type _}

/-- In entries that name nothing twice, each entry is what is read under its name. -/
theorem get?_eq_some_of_mem (es : Entries α) (hes : es.keys.Nodup) (key : String) (value : α)
    (h : (key, value) ∈ es) : es.get? key = some value := by
  induction es with
  | nil => cases h
  | cons e es ih =>
    obtain ⟨k, v⟩ := e
    obtain ⟨hk, hes⟩ := List.nodup_cons.1 hes
    rw [get?]
    rcases List.mem_cons.1 h with heq | hmem
    · cases heq
      rw [if_pos rfl]
    · have hne : k ≠ key := by
        rintro rfl
        exact hk (List.mem_map.2 ⟨_, hmem, rfl⟩)
      rw [if_neg hne, ih hes hmem]

/-! ## Putting an entry -/

theorem mem_put (es : Entries α) (key : String) (value : α) (e : String × α)
    (h : e ∈ es.put key value) : e = (key, value) ∨ e ∈ es := by
  induction es with
  | nil => exact .inl (List.mem_singleton.1 h)
  | cons first es ih =>
    obtain ⟨k, v⟩ := first
    rw [put] at h
    split at h
    · next hk =>
      subst hk
      exact (List.mem_cons.1 h).imp_right (List.mem_cons_of_mem _)
    · rcases List.mem_cons.1 h with rfl | h
      · exact .inr List.mem_cons_self
      · exact (ih h).imp_right (List.mem_cons_of_mem _)

/-- What is read after an entry has been put. -/
theorem get?_put (es : Entries α) (key other : String) (value : α) :
    (es.put key value).get? other = if other = key then some value else es.get? other := by
  split
  · next h => rw [h, get?_put_self]
  · next h => exact get?_put_of_ne es value h

theorem nodup_keys_put (es : Entries α) (key : String) (value : α) (h : es.keys.Nodup) :
    (es.put key value).keys.Nodup := by
  rw [keys_put]
  split
  · exact h
  · next hkey =>
    rw [← List.concat_eq_append]
    exact List.Nodup.concat hkey h

/-- A new name is entered at the end. -/
theorem put_of_not_mem (es : Entries α) (key : String) (value : α) (h : key ∉ es.keys) :
    es.put key value = es ++ [(key, value)] := by
  induction es with
  | nil => rfl
  | cons first es ih =>
    obtain ⟨k, v⟩ := first
    obtain ⟨hk, hrest⟩ := not_or.1 (mt List.mem_cons.2 h)
    rw [put, if_neg (Ne.symm hk), ih hrest, List.cons_append]

/-! ## Putting two entries -/

/-- The second of two values under one name counts. -/
theorem put_put_self (es : Entries α) (key : String) (first second : α) :
    (es.put key first).put key second = es.put key second := by
  induction es with
  | nil => simp [put]
  | cons e es ih =>
    obtain ⟨k, v⟩ := e
    by_cases hk : k = key <;> simp [put, hk, ih]

/-- Entering the value that is there changes nothing. -/
theorem put_of_get? (es : Entries α) (key : String) (value : α) (h : es.get? key = some value) :
    es.put key value = es := by
  induction es with
  | nil => cases h
  | cons e es ih =>
    obtain ⟨k, v⟩ := e
    rw [get?] at h
    rw [put]
    split at h
    · next hk =>
      cases h
      rw [if_pos hk, hk]
    · next hk => rw [if_neg hk, ih h]

/-- A name that is there keeps its place, so another one can be entered before it or after it. -/
theorem put_put_comm_of_mem (es : Entries α) {key other : String} (value inner : α)
    (hne : other ≠ key) (hkey : key ∈ es.keys) :
    (es.put other inner).put key value = (es.put key value).put other inner := by
  induction es with
  | nil => cases hkey
  | cons e es ih =>
    obtain ⟨k, v⟩ := e
    by_cases hk : k = key
    · simp [put, hk, hne.symm]
    · have hmem : key ∈ keys es := (List.mem_cons.1 hkey).resolve_left (Ne.symm hk)
      by_cases ho : k = other
      · simp [put, ho, hne]
      · simp [put, hk, ho, ih hmem]

/-- Two new names stand in the order in which they are entered; but for that the order makes no
difference to the names. -/
theorem keys_put_put_perm (es : Entries α) (key other : String) (value inner : α) :
    ((es.put key value).put other inner).keys.Perm ((es.put other inner).put key value).keys := by
  by_cases hne : key = other
  · subst hne
    simp [keys_put]
  · by_cases hkey : key ∈ es.keys
    · by_cases hother : other ∈ es.keys <;> simp [keys_put, hkey, hother]
    · by_cases hother : other ∈ es.keys
      · simp [keys_put, hkey, hother]
      · have hswap := (List.Perm.swap other key []).append_left es.keys
        simpa [keys_put, hkey, hother, hne, Ne.symm hne] using hswap

/-! ## Mappings made of pairs -/

theorem ofPairs_concat (pairs : List (String × α)) (key : String) (value : α) :
    ofPairs (pairs ++ [(key, value)]) = (ofPairs pairs).put key value := by
  rw [ofPairs, List.foldl_append]
  rfl

/-- A mapping that is made of pairs has no other entries. -/
theorem mem_of_mem_ofPairs (pairs : List (String × α)) (e : String × α) (h : e ∈ ofPairs pairs) :
    e ∈ pairs := by
  induction pairs using List.reverseRecOn with
  | nil => exact h
  | append_singleton pairs pair ih =>
    rw [ofPairs_concat] at h
    rcases mem_put _ _ _ e h with rfl | h
    · exact List.mem_append_right _ (List.mem_singleton_self _)
    · exact List.mem_append_left _ (ih h)

/-- A mapping that is made of pairs names nothing twice. -/
theorem nodup_keys_ofPairs (pairs : List (String × α)) : (ofPairs pairs).keys.Nodup := by
  induction pairs using List.reverseRecOn with
  | nil => exact List.nodup_nil
  | append_singleton pairs pair ih =>
    rw [ofPairs_concat]
    exact nodup_keys_put _ _ _ ih

/-- Pairs that name nothing twice are a mapping as they are. -/
theorem ofPairs_of_nodup (pairs : List (String × α)) (h : (keys pairs).Nodup) :
    ofPairs pairs = pairs := by
  induction pairs using List.reverseRecOn with
  | nil => rfl
  | append_singleton pairs pair ih =>
    obtain ⟨key, value⟩ := pair
    have hkeys : keys (pairs ++ [(key, value)]) = (keys pairs).concat key := by
      rw [List.concat_eq_append, keys, List.map_append]
      rfl
    rw [hkeys, List.nodup_concat] at h
    rw [ofPairs_concat, ih h.2, put_of_not_mem pairs key value h.1]

/-! ## Mappings over one another -/

/-- The entries of pairs that name nothing twice, over what was there before. -/
theorem get?_foldl_put (pairs es : Entries α) (hpairs : pairs.keys.Nodup) (key : String) :
    Entries.get? (pairs.foldl (fun es (k, v) => es.put k v) es) key =
      (pairs.get? key).or (es.get? key) := by
  induction pairs generalizing es with
  | nil => rfl
  | cons pair pairs ih =>
    obtain ⟨k, v⟩ := pair
    obtain ⟨hk, hpairs⟩ := List.nodup_cons.1 hpairs
    rw [List.foldl_cons, ih _ hpairs, get?]
    by_cases hkey : k = key
    · subst hkey
      rw [(get?_eq_none_iff pairs k).2 hk, get?_put_self, if_pos rfl]
      rfl
    · rw [get?_put_of_ne es v (Ne.symm hkey), if_neg hkey]

/-- Two mappings as one, in which the second one counts before the first one. -/
theorem get?_ofPairs_append (below above : Entries α) (hbelow : below.keys.Nodup)
    (habove : above.keys.Nodup) (key : String) :
    Entries.get? (.ofPairs (below ++ above)) key = (above.get? key).or (below.get? key) := by
  rw [ofPairs, List.foldl_append, get?_foldl_put above _ habove, get?_foldl_put below _ hbelow,
    get?_nil, Option.or_none]

/-! ## Changed values -/

theorem get?_map (f : α → β) (es : Entries α) (key : String) :
    Entries.get? (es.map fun (k, v) => (k, f v)) key = (es.get? key).map f := by
  induction es with
  | nil => rfl
  | cons e es ih =>
    obtain ⟨k, v⟩ := e
    rw [List.map_cons, get?, get?]
    split
    · rfl
    · exact ih

theorem keys_map (f : α → β) (es : Entries α) :
    Entries.keys (es.map fun (k, v) => (k, f v)) = es.keys := by
  simp [keys]

/-- Of a mapping without the entries that fail a test, only the others are read. -/
theorem get?_filter (p : α → Bool) (es : Entries α) (hes : es.keys.Nodup) (key : String) :
    Entries.get? (es.filter fun e => p e.2) key = (es.get? key).filter p := by
  induction es with
  | nil => rfl
  | cons e es ih =>
    obtain ⟨k, v⟩ := e
    obtain ⟨hk, hes⟩ := List.nodup_cons.1 hes
    by_cases hkey : k = key
    · subst hkey
      -- the name does not come again behind the entry
      have hnone := (get?_eq_none_iff es k).2 hk
      cases hp : p v <;> simp [hp, get?, Option.filter, ih hes, hnone]
    · cases hp : p v <;> simp [hp, get?, hkey, ih hes]

/-- The same value under each of some names. -/
theorem get?_map_const (names : List String) (value : α) (name : String) :
    Entries.get? (names.map fun name => (name, value)) name =
      if name ∈ names then some value else none := by
  induction names with
  | nil => rfl
  | cons first names ih =>
    rw [List.map_cons, get?, ih]
    by_cases hfirst : first = name
    · simp [hfirst]
    · simp [hfirst, Ne.symm hfirst]

end Stencil.Entries
