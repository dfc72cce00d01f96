/-!
# Fixed texts inside a text

`afterPrefix?` tests for a text at the start and answers what follows; `cut?` finds the leftmost
occurrence of a text and answers what stands before and after it; `splitWhere` cuts a text at every
character of a kind.

* `afterPrefix?_eq_some_iff`, `eq_append_of_cut?`: both answers put together again are the input;
* `length_of_cut?`: what follows an occurrence is shorter than the input;
* `splitWhere_eq_splitOnP`, `splitWhere_ne_nil`: the pieces are those of the standard library, and a
  text has at least one.
-/

namespace Stencil.Text

/-- What follows `mark` in a text that begins with it. -/
def afterPrefix? : (mark s : List Char) → Option (List Char)
  | [], s => some s
  | _ :: _, [] => none
  | m :: mark, c :: s => if m = c then afterPrefix? mark s else none

theorem afterPrefix?_eq_some_iff {mark s r : List Char} :
    afterPrefix? mark s = some r ↔ s = mark ++ r := by
  induction mark generalizing s with
  | nil => simp [afterPrefix?]
  | cons m mark ih =>
    cases s with
    | nil => simp [afterPrefix?]
    | cons c s =>
      by_cases h : m = c
      · simp [afterPrefix?, h, ih]
      · simp [afterPrefix?, h, Ne.symm h]

/-- Cuts a text at the leftmost occurrence of `mark`: the characters before it and those after
it. -/
def cut? (mark : List Char) : List Char → Option (List Char × List Char)
  | [] => (afterPrefix? mark []).map fun r => ([], r)
  | c :: s =>
    match afterPrefix? mark (c :: s) with
    | some r => some ([], r)
    | none => (cut? mark s).map fun (a, b) => (c :: a, b)

theorem eq_append_of_cut? {mark s a b : List Char} (h : cut? mark s = some (a, b)) :
    s = a ++ mark ++ b := by
  induction s generalizing a with
  | nil =>
    obtain ⟨r, hr, hab⟩ := Option.map_eq_some_iff.1 h
    cases hab
    simpa using afterPrefix?_eq_some_iff.1 hr
  | cons c s ih =>
    unfold cut? at h
    split at h
    · next r hr =>
      cases h
      simpa using afterPrefix?_eq_some_iff.1 hr
    · obtain ⟨⟨a', b'⟩, hs, hab⟩ := Option.map_eq_some_iff.1 h
      cases hab
      simp [ih hs]

theorem length_of_cut? {mark s a b : List Char} (h : cut? mark s = some (a, b)) :
    s.length = a.length + mark.length + b.length := by
  rw [eq_append_of_cut? h]
  simp [Nat.add_assoc]

/-- The pieces of a text between the characters that `p` holds of: always one more than there are
such characters. -/
def splitWhere (p : Char → Bool) : List Char → List (List Char)
  | [] => [[]]
  | c :: s =>
    if p c then [] :: splitWhere p s
    else
      match splitWhere p s with
      | [] => [[c]]
      | piece :: pieces => (c :: piece) :: pieces

/-- The pieces of a text between the occurrences of one character. -/
def splitOn (sep : Char) (s : List Char) : List (List Char) := splitWhere (· = sep) s

/-- The pieces are those that the standard library cuts. -/
theorem splitWhere_eq_splitOnP (p : Char → Bool) (s : List Char) :
    splitWhere p s = s.splitOnP p := by
  induction s with
  | nil => rfl
  | cons c s ih =>
    rw [splitWhere, ih, List.splitOnP_cons_eq_if_modifyHead]
    split
    · rfl
    · cases hs : s.splitOnP p with
      | nil => exact absurd hs (List.splitOnP_ne_nil p s)
      | cons piece pieces => rfl

theorem splitWhere_ne_nil (p : Char → Bool) (s : List Char) : splitWhere p s ≠ [] := by
  rw [splitWhere_eq_splitOnP]
  exact List.splitOnP_ne_nil p s

end Stencil.Text
