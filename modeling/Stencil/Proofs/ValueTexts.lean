import Mathlib.Data.List.TakeWhile
import Stencil.Proofs.HereditaryValues

/-!
# The characters of values

What a placeholder is replaced by is a text of the data, or the text of a number or a truth value.
The latter are made of digits, letters, signs and points. So a brace in what a placeholder gives
was in a text of the data.

## Key results

- `brace_not_mem_toText`: no number has a brace in its text.
- `hereditary_lacksBrace`: values without a brace in their texts have only such values in them.
- `brace_not_mem_text`: such a value is replaced by a text without a brace.
-/

namespace Stencil

/-! ## Numbers -/

theorem brace_not_mem_toDigits (n : Nat) : '{' ∉ Nat.toDigits 10 n := by
  intro h
  have hdigit := Nat.isDigit_of_mem_toDigits (by omega) (by omega) h
  exact absurd hdigit (by decide)

namespace Binary64

theorem brace_not_mem_dropTrailingZeros (digits : List Char) (h : '{' ∉ digits) :
    '{' ∉ dropTrailingZeros digits := by
  unfold dropTrailingZeros
  split
  · decide
  · intro hmem
    rw [List.mem_reverse] at hmem
    exact h (List.mem_reverse.1 ((List.dropWhile_sublist _).mem hmem))

theorem brace_not_mem_exponentText (e : Int) : '{' ∉ exponentText e := by
  have hdigits := brace_not_mem_toDigits e.natAbs
  unfold exponentText
  split <;> simp [hdigits]

theorem brace_not_mem_layOut (digits : List Char) (place : Int) (h : '{' ∉ digits) :
    '{' ∉ layOut digits place := by
  have hexponent := brace_not_mem_exponentText place
  have htake : '{' ∉ digits.take (place.toNat + 1) := fun hm => h (List.mem_of_mem_take hm)
  have hdrop : '{' ∉ digits.drop (place.toNat + 1) := fun hm => h (List.mem_of_mem_drop hm)
  unfold layOut
  split
  · -- with an exponent
    split
    · simp only [List.mem_cons, not_or] at h
      simp [h, hexponent]
    · simp [h, hexponent]
  · split
    · simp [h]
    · dsimp only
      split
      · simp [htake]
      · simp [htake, hdrop]

/-- No floating-point number has a brace in its text. -/
theorem brace_not_mem_toText (x : Binary64) : '{' ∉ x.toText.toList := by
  cases x with
  | nan payload => exact (by decide : '{' ∉ "nan".toList)
  | infinite negative => cases negative <;> decide
  | finite negative m e =>
    have hbody : ∀ body : List Char, '{' ∉ body →
        '{' ∉ (String.ofList (if negative then '-' :: body else body)).toList := by
      intro body hbody
      rw [String.toList_ofList]
      split <;> simp [hbody]
    unfold toText
    apply hbody
    split
    · decide
    · apply brace_not_mem_layOut
      apply brace_not_mem_dropTrailingZeros
      exact brace_not_mem_toDigits _

end Binary64

/-- No number has a brace in its text. -/
theorem Number.brace_not_mem_toText? (n : Number) (s : String) (h : n.toText? = .ok s) :
    '{' ∉ s.toList := by
  cases n with
  | whole n =>
    have hdigits := brace_not_mem_toDigits n.natAbs
    -- the limit itself is never computed
    cases hlong : isOverlong n with
    | true =>
      rw [toText?, hlong] at h
      cases h
    | false =>
      rw [toText?, hlong] at h
      rw [← Except.ok.inj h, integerText, String.toList_ofList]
      split <;> simp [hdigits]
  | binary x =>
    cases h
    exact x.brace_not_mem_toText

/-! ## Values -/

namespace Value

/-- The text is in the value: it is the value itself, or it is in an item or a field of it. -/
inductive HasText (s : String) : Value → Prop
  | text : HasText s (.text s)
  | item (items : List Value) (v : Value) : v ∈ items → HasText s v → HasText s (.list items)
  | field (fields : List (String × Value)) (name : String) (v : Value) :
      (name, v) ∈ fields → HasText s v → HasText s (.object fields)

/-- No text in the value has an opening brace. -/
def LacksBrace (value : Value) : Prop := ∀ s, HasText s value → '{' ∉ s.toList

/-- What is in a value without a brace has none. -/
theorem hereditary_lacksBrace : Hereditary LacksBrace where
  undefined s h := by cases h
  item items h v hv s hs := h s (.item items v hv hs)
  field fields h name v hget s hs :=
    h s (.field fields name v (Entries.mem_of_get? fields name v hget) hs)

/-- What a value without a brace is replaced by has none. -/
theorem brace_not_mem_text? (value : Value) (h : value.LacksBrace) (s : String)
    (hs : value.text? = .ok s) : '{' ∉ s.toList := by
  cases value with
  | bool b =>
    cases hs
    cases b <;> decide
  | number n => exact n.brace_not_mem_toText? s hs
  | text t =>
    cases hs
    exact h s .text
  | undefined | null | list items | object fields =>
    cases hs
    exact List.not_mem_nil

end Value

end Stencil
