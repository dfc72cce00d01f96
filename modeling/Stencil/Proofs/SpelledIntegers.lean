import Stencil.Proofs.PrintedLexemes
import Stencil.Proofs.ValueOrder

/-!
# Texts that spell integers

A value that is given as a text, say on the command line, counts as the number that it spells. The
text of an integer, whatever blanks stand around it, is trimmed to what was written, read as one
numeral, and valued as that integer. So in a comparison the integer and its text can stand for each
other on either side. Equality is no exception as long as one side is a number; two texts are equal
only character by character.

## Key results

- `spelledNumber?_padded`: the text of an integer between blanks spells the integer.
- `compare_denoted`: integers and their texts are compared as the integers.
-/

namespace Stencil

open Stencil.Text

/-! ## The text of an integer -/

/-- There is no blank in the numeral of an integer. -/
theorem Numeral.not_isBlank_of_mem_ofInt (n : Int) (c : Char) (h : c ∈ (ofInt n).toList) :
    isBlank c = false := by
  have hdigits : ∀ d ∈ Nat.toDigits 10 n.natAbs, isBlank d = false := fun d hd =>
    isBlank_of_isDigit d (isDigit_of_mem_toDigits n.natAbs d hd)
  rw [toList, ofInt, List.append_nil] at h
  rcases List.mem_append.1 h with hsign | hdigit
  · split at hsign
    · rw [List.mem_singleton.1 hsign]
      decide
    · cases hsign
  · exact hdigits c hdigit

namespace Value

/-- The text of an integer between blanks spells the integer. -/
theorem spelledNumber?_padded (n : Int) (hn : n.natAbs < 10 ^ digitLimit) (front back : List Char)
    (hfront : IsBlanks front) (hback : IsBlanks back) :
    spelledNumber? (String.ofList (front ++ (Number.integerText n).toList ++ back)) =
      .ok (some (.whole n)) := by
  rw [← Numeral.toList_ofInt]
  have htrim : trim (front ++ (Numeral.ofInt n).toList ++ back) = (Numeral.ofInt n).toList := by
    rw [trim_append_blanks _ back hback, trim_blanks_append front _ hfront,
      trim_of_not_isBlank _ (Numeral.not_isBlank_of_mem_ofInt n)]
  have hread := Numeral.read?_ofInt n [] isBoundary_nil
  rw [List.append_nil] at hread
  rw [spelledNumber?, String.toList_ofList, htrim, hread]
  show Except.map some (Numeral.ofInt n).toNumber = _
  rw [Numeral.toNumber_ofInt n hn]
  rfl

/-- The value is the integer, or the text of the integer with any blanks around it. -/
inductive Denotes (n : Int) : Value → Prop
  | number : Denotes n (int n)
  | text (front back : List Char) (s : String) : IsBlanks front → IsBlanks back →
      (int n).text? = .ok s → Denotes n (.text (String.ofList (front ++ s.toList ++ back)))

/-- An integer within the digit limit has a text. -/
theorem text?_int (n : Int) (hn : n.natAbs < 10 ^ digitLimit) :
    (int n).text? = .ok (Number.integerText n) := by
  have hshort := Number.isShort_whole n hn
  rw [Number.isShort, Bool.not_eq_true'] at hshort
  show (Number.whole n).toText? = _
  rw [Number.toText?, hshort]
  rfl

/-- A value that denotes an integer within the digit limit has that integer as its number. -/
theorem number?_of_denotes (n : Int) (hn : n.natAbs < 10 ^ digitLimit) (v : Value)
    (h : v.Denotes n) : v.number? = .ok (some (.whole n)) := by
  cases h with
  | number => rfl
  | text front back s hfront hback hs =>
    rw [text?_int n hn] at hs
    rw [← Except.ok.inj hs]
    exact spelledNumber?_padded n hn front back hfront hback

/-! ## Comparing integers and their texts -/

/-- Integers and their texts are ordered as the integers, whatever the operator is. -/
theorem orderedAs_of_denotes (m n : Int) (hm : m.natAbs < 10 ^ digitLimit)
    (hn : n.natAbs < 10 ^ digitLimit) (left right : Value) (hl : left.Denotes m)
    (hr : right.Denotes n) : OrderedAs left right (Ord.compare m n) := by
  intro operator
  rw [order_of_number? left right _ _ (number?_of_denotes m hm left hl)
    (number?_of_denotes n hn right hr), Number.order?_whole]

theorem holds_lt_compare (m n : Int) :
    Relation.lt.holds (some (Ord.compare m n)) = decide (m < n) := by
  rcases lt_trichotomy m n with h | h | h
  · simp [Relation.holds, Int.compare_eq_lt.2 h, h]
  · simp [Relation.holds, h]
  · simp [Relation.holds, Int.compare_eq_gt.2 h, h.not_gt]

theorem holds_gt_compare (m n : Int) :
    Relation.gt.holds (some (Ord.compare m n)) = decide (n < m) := by
  rw [← Relation.holds_lt_swap, ← Std.OrientedOrd.eq_swap, holds_lt_compare]

/-- An integer or its text equals another one if it is the same integer, unless both are texts. -/
theorem equal_of_denotes (m n : Int) (hm : m.natAbs < 10 ^ digitLimit)
    (hn : n.natAbs < 10 ^ digitLimit) (left right : Value) (hl : left.Denotes m)
    (hr : right.Denotes n) (htexts : ¬ ∃ s t, left = text s ∧ right = text t) :
    left.equal right = .ok (decide (m = n)) := by
  rw [equal_of_number? left right _ _ (number?_of_denotes m hm left hl)
    (number?_of_denotes n hn right hr) htexts, Number.equal, Number.order?_whole, beq_eq_decide,
    decide_eq_decide.2 (Option.some_inj.trans Int.compare_eq_eq)]

/-- **Texts count as the integers they spell.** Let two values be integers within the digit limit,
or the texts of such integers with any blanks around them. Then every order operator answers, and
says what it says of the integers; and if one of the two values is a number, they are equal from
either side exactly if they are the same integer. -/
theorem compare_denoted (m n : Int) (hm : m.natAbs < 10 ^ digitLimit)
    (hn : n.natAbs < 10 ^ digitLimit) (left right : Value) (hl : left.Denotes m)
    (hr : right.Denotes n) :
    left.compare right "<" = .ok (decide (m < n)) ∧
      left.compare right "<=" = .ok (decide (m ≤ n)) ∧
      left.compare right ">" = .ok (decide (m > n)) ∧
      left.compare right ">=" = .ok (decide (m ≥ n)) ∧
      (left = int m ∨ right = int n →
        left.equal right = .ok (decide (m = n)) ∧ right.equal left = .ok (decide (m = n))) := by
  have hordered := orderedAs_of_denotes m n hm hn left right hl hr
  have hcompare := compare_of_orderedAs left right _ hordered
  have hlt := hcompare .lt rfl
  have hle := hcompare .le rfl
  have hgt := hcompare .gt rfl
  have hge := hcompare .ge rfl
  rw [holds_lt_compare] at hlt
  rw [Relation.holds_le, holds_gt_compare] at hle
  rw [holds_gt_compare] at hgt
  rw [Relation.holds_ge, holds_lt_compare] at hge
  rw [← decide_not, decide_eq_decide.2 Int.not_lt] at hle hge
  refine ⟨hlt, hle, hgt, hge, fun hnumber => ⟨?_, ?_⟩⟩
  · refine equal_of_denotes m n hm hn left right hl hr ?_
    rintro ⟨s, t, rfl, rfl⟩
    rcases hnumber with h | h <;> cases h
  · rw [equal_of_denotes n m hn hm right left hr hl, decide_eq_decide.2 eq_comm]
    rintro ⟨t, s, rfl, rfl⟩
    rcases hnumber with h | h <;> cases h

/-- A negative integer as a text between blanks, and a positive one as a number. -/
theorem compare_denoted_padded :
    let left : Value := text "\t-7 \n"
    let right : Value := int 10
    left.Denotes (-7) ∧ right.Denotes 10 ∧ left.compare right "<" = .ok true ∧
      left.compare right ">=" = .ok false ∧ right.equal left = .ok false := by
  intro left right
  have hlimit : ∀ k : Int, k.natAbs ≤ 10 → k.natAbs < 10 ^ digitLimit := fun k hk =>
    hk.trans_lt (lt_self_pow₀ (by decide) (by decide))
  have hseven := hlimit (-7) (by decide)
  have htext : (int (-7)).text? = .ok "-7" := by
    rw [text?_int (-7) hseven]
    decide
  have hleft : left.Denotes (-7) := .text ['\t'] [' ', '\n'] "-7" (by decide) (by decide) htext
  obtain ⟨hlt, -, -, hge, hequal⟩ := compare_denoted (-7) 10 hseven (hlimit 10 (by decide)) left
    right hleft .number
  exact ⟨hleft, .number, hlt, hge, (hequal (.inr rfl)).2⟩

end Value

end Stencil
