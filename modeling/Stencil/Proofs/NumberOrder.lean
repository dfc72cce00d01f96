import Mathlib.Algebra.Order.Ring.Cast
import Mathlib.Algebra.Order.Ring.Rat
import Mathlib.Order.Compare
import Stencil.Number.Basic

/-!
# The order of numbers

Numbers are compared as points of the extended line, whether they are whole or binary, and only "not
a number" has no place there. So two numbers with places are ordered in exactly one way, the order
is turned round if they are swapped, and equality is one of its three outcomes. A numeral never
spells "not a number", whatever its digits are.

## Key results

- `Extended.order_swap`, `Extended.order_eq_iff`: the extended line is ordered totally.
- `exists_order?`, `order?_swap`, `order?_self`: the order of two numbers, of the same two swapped,
  and of a number and itself.
- `order?_whole`: whole numbers are ordered as integers.
- `isNaN_toNumber`: what a numeral spells has a place on the line.
-/

namespace Stencil

namespace Number

/-! ## The extended line -/

namespace Extended

/-- Finite points are ordered as the rationals that they are. -/
theorem order_finite (a b : Rat) : (finite a).order (finite b) = compare a b :=
  (LinearOrder.compare_eq_compareOfLessAndEq a b).symm

/-- Swapping two points turns their order round. -/
theorem order_swap (x y : Extended) : (x.order y).swap = y.order x := by
  cases x with
  | finite a =>
    cases y with
    | finite b => rw [order_finite, order_finite, ← Std.OrientedOrd.eq_swap]
    | _ => rfl
  | _ => cases y <;> rfl

/-- Points are ordered as equal only if they are. -/
theorem order_eq_iff (x y : Extended) : x.order y = .eq ↔ x = y := by
  cases x with
  | finite a =>
    cases y with
    | finite b => rw [order_finite, compare_eq_iff_eq, finite.injEq]
    | _ => simp [order]
  | _ => cases y <;> simp [order]

end Extended

/-! ## Numbers -/

/-- The number is "not a number". -/
def isNaN : Number → Bool
  | binary (.nan _) => true
  | _ => false

/-- Every number but "not a number" has a place on the extended line. -/
theorem exists_extended? (n : Number) (h : n.isNaN = false) : ∃ x, n.extended? = some x := by
  cases n with
  | whole n => exact ⟨_, rfl⟩
  | binary x =>
    cases x with
    | nan payload => cases h
    | infinite negative => cases negative <;> exact ⟨_, rfl⟩
    | finite negative m e => exact ⟨_, rfl⟩

theorem extended?_of_isNaN (n : Number) (h : n.isNaN = true) : n.extended? = none := by
  cases n with
  | whole n => cases h
  | binary x =>
    cases x with
    | nan payload => rfl
    | infinite negative => cases h
    | finite negative m e => cases h

theorem order?_eq (m n : Number) :
    m.order? n = m.extended?.bind fun x => n.extended?.map x.order := by
  unfold order?
  cases m.extended? <;> cases n.extended? <;> rfl

/-- Two numbers with places on the line are ordered. -/
theorem exists_order? (m n : Number) (hm : m.isNaN = false) (hn : n.isNaN = false) :
    ∃ o, m.order? n = some o := by
  obtain ⟨x, hx⟩ := exists_extended? m hm
  obtain ⟨y, hy⟩ := exists_extended? n hn
  exact ⟨x.order y, by simp [order?_eq, hx, hy]⟩

/-- Swapping two numbers turns their order round. -/
theorem order?_swap (m n : Number) : (m.order? n).map Ordering.swap = n.order? m := by
  rw [order?_eq, order?_eq]
  cases hx : m.extended? <;> cases hy : n.extended? <;> simp [Extended.order_swap]

/-- A number is ordered as equal to itself, if it is ordered at all. -/
theorem order?_self (n : Number) : n.order? n = if n.isNaN then none else some .eq := by
  cases h : n.isNaN with
  | true => simp [order?_eq, extended?_of_isNaN n h]
  | false =>
    obtain ⟨x, hx⟩ := exists_extended? n h
    simp [order?_eq, hx, Extended.order_eq_iff]

/-- Whole numbers are ordered as integers. -/
theorem order?_whole (m n : Int) : (whole m).order? (whole n) = some (compare m n) := by
  have horder : Extended.order (.finite m) (.finite n) = compare m n := by
    rw [Extended.order_finite, ← cmp_eq_compare, ← cmp_eq_compare]
    exact Int.cast_strictMono.cmp_map_eq m n
  rw [order?_eq, ← horder]
  rfl

theorem equal_comm (m n : Number) : m.equal n = n.equal m := by
  rw [equal, equal, ← order?_swap m n]
  cases m.order? n with
  | none => rfl
  | some o => cases o <;> rfl

/-- Every number but "not a number" equals itself. -/
theorem equal_self (n : Number) : n.equal n = !n.isNaN := by
  rw [equal, order?_self]
  cases n.isNaN <;> rfl

/-- One "not a number" is the same as another one whichever of them comes first. -/
theorem same_comm (m n : Number) : m.same n = n.same m := by
  unfold same
  split
  · exact BEq.comm
  · next hnan =>
    split
    · exact absurd rfl (hnan _ _ rfl)
    · exact equal_comm m n

/-- Every number is the same as itself. -/
theorem same_self (n : Number) : n.same n = true := by
  cases h : n.isNaN with
  | true =>
    unfold isNaN at h
    split at h
    · exact beq_self_eq_true _
    · cases h
  | false =>
    unfold same
    split
    · cases h
    · rw [equal_self, h]
      rfl

end Number

/-! ## What numerals spell -/

namespace Binary64

/-- Rounding a fraction gives a value. -/
theorem ofRatio_ne_nan (negative : Bool) (num den payload : Nat) :
    ofRatio negative num den ≠ nan payload := by
  unfold ofRatio zero
  split
  · simp
  · dsimp only
    generalize (if roundHalfEven _ _ = Nat.pow 2 precision then _ else _) = rounded
    -- a fraction that is too large is infinite
    split
    · simp
    · simp

theorem ofScientific_ne_nan (negative : Bool) (digits : Nat) (exponent : Int) (payload : Nat) :
    ofScientific negative digits exponent ≠ nan payload := by
  unfold ofScientific zero
  split
  · simp
  · split
    · simp
    · split
      · simp
      · exact ofRatio_ne_nan negative _ _ payload

end Binary64

/-- No numeral spells "not a number". -/
theorem isNaN_toNumber (numeral : Numeral) (n : Number) (h : numeral.toNumber = .ok n) :
    n.isNaN = false := by
  unfold Numeral.toNumber at h
  split at h
  · cases h
    unfold Number.isNaN
    split
    · next payload hnan =>
      exact absurd (Number.binary.inj hnan) (Binary64.ofScientific_ne_nan _ _ _ payload)
    · rfl
  · split at h
    · cases h
      rfl
    · cases h

end Stencil
