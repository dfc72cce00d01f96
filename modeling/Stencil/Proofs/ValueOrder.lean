import Mathlib.Data.String.Basic
import Stencil.Proofs.DigitLimit
import Stencil.Proofs.ValueEquality

/-!
# Order of values

Two values are ordered if both are or spell numbers, or if both are texts; whatever else stands on
either side, the order is refused. Which of these it is does not depend on the operator, nor on the
side on which a value stands, and neither does the way in which the two are ordered, but for a
turn. So the four operators say one thing in four ways. Unless both sides are texts, equality in a
condition asks for the same numbers, and then one value is less than, equal to or greater than the
other one. (Two texts may be ordered as numbers, but they are equal only as texts.)

## Key results

- `number?_isNaN`: the number of a value is "not a number" only if the value is.
- `equal_of_number?`, `order_of_number?`: values with numbers are compared as these.
- `order_cases`: two values are ordered from both sides, or refused from both sides.
- `compare_coherent`: the four operators and equality fit together.
-/

namespace Stencil

namespace Relation

/-- An order operator is found by its text. -/
theorem orderOfSymbol?_symbol (r : Relation) (h : r.isEquality = false) :
    orderOfSymbol? r.symbol = some r := by
  cases r with
  | eq => cases h
  | ne => cases h
  | _ => decide

theorem holds_lt_swap (o : Ordering) : lt.holds (some o.swap) = gt.holds (some o) := by
  cases o <;> rfl

theorem holds_gt_swap (o : Ordering) : gt.holds (some o.swap) = lt.holds (some o) := by
  cases o <;> rfl

/-- At most is not greater. -/
theorem holds_le (o : Ordering) : le.holds (some o) = !gt.holds (some o) := by
  cases o <;> rfl

/-- At least is not less. -/
theorem holds_ge (o : Ordering) : ge.holds (some o) = !lt.holds (some o) := by
  cases o <;> rfl

end Relation

namespace Value

/-! ## Texts -/

/-- Texts are ordered by their characters. -/
theorem textOrder_eq (s t : String) : textOrder s t = Ord.compare s t := by
  rw [LinearOrder.compare_eq_compareOfLessAndEq]
  rfl

theorem textOrder_swap (s t : String) : (textOrder s t).swap = textOrder t s := by
  rw [textOrder_eq, textOrder_eq, ← Std.OrientedOrd.eq_swap]

/-! ## Values with numbers -/

/-- The number of a value is "not a number" only if the value is. -/
theorem number?_isNaN (v : Value) (n : Number) (hv : v.isNaN = false)
    (h : v.number? = .ok (some n)) : n.isNaN = false := by
  cases v with
  | number m =>
    cases h
    exact hv
  | text s =>
    change spelledNumber? s = _ at h
    unfold spelledNumber? at h
    split at h
    · next numeral _ =>
      cases hn : numeral.toNumber with
      | error e =>
        rw [hn] at h
        cases h
      | ok m =>
        rw [hn] at h
        cases h
        exact isNaN_toNumber numeral _ hn
    · cases h
  | _ => cases h

/-- Values with numbers are ordered as these. -/
theorem order_of_number? (left right : Value) (m n : Number) (hm : left.number? = .ok (some m))
    (hn : right.number? = .ok (some n)) (operator : String) :
    left.order right operator = .ok (m.order? n) := by
  unfold order
  rw [hm, hn]

/-- Two texts that do not both spell numbers are ordered as texts. -/
theorem order_texts (s t : String) (hs : spellsShort s = true) (ht : spellsShort t = true)
    (h : ¬ ∃ m n, (text s).number? = .ok (some m) ∧ (text t).number? = .ok (some n))
    (operator : String) : (text s).order (text t) operator = .ok (some (textOrder s t)) := by
  obtain ⟨a, ha⟩ := exists_number? (text s) hs
  obtain ⟨b, hb⟩ := exists_number? (text t) ht
  unfold order
  split
  · next m n hm hn => exact absurd ⟨m, n, hm, hn⟩ h
  · rfl
  · next hnone => exact absurd hb (hnone _ _ ha)

/-- Values with numbers are equal as these, unless both are texts. -/
theorem equal_of_number? (left right : Value) (m n : Number) (hm : left.number? = .ok (some m))
    (hn : right.number? = .ok (some n)) (htexts : ¬ ∃ s t, left = text s ∧ right = text t) :
    left.equal right = .ok (m.equal n) := by
  -- only numbers and texts have numbers
  have hkind : ∀ (v : Value) (k : Number), v.number? = .ok (some k) →
      v.isNullish = false ∧ ∀ b, v ≠ bool b := by
    intro v k hk
    cases v with
    | number _ => exact ⟨rfl, nofun⟩
    | text _ => exact ⟨rfl, nofun⟩
    | _ => cases hk
  obtain ⟨hleft, hl⟩ := hkind left m hm
  obtain ⟨hright, hr⟩ := hkind right n hn
  rw [equal, equalBy_of_not_bool _ left right hl hr, hleft, hright,
    equalContent_eq _ left right htexts, hm, hn]
  rfl

/-! ## Ordered and refused -/

/-- The values are ordered so, whatever the operator is. -/
def OrderedAs (left right : Value) (o : Ordering) : Prop :=
  ∀ operator, left.order right operator = .ok (some o)

/-- The values have no order, and this can be reported, whatever the operator is. -/
def Unordered (left right : Value) : Prop :=
  ∀ operator, ∃ e, left.order right operator = .error (.refused e)

/-- Values that are not both texts and do not both have numbers have no order. -/
theorem unordered_of_not_numbers (left right : Value) (hl : left.isShort = true)
    (hr : right.isShort = true)
    (h : ¬ ∃ m n, left.number? = .ok (some m) ∧ right.number? = .ok (some n))
    (htexts : ¬ ∃ s t, left = text s ∧ right = text t) : Unordered left right := by
  intro operator
  obtain ⟨a, ha⟩ := exists_number? left hl
  obtain ⟨b, hb⟩ := exists_number? right hr
  obtain ⟨e, hreport⟩ := exists_incomparable left right hl hr operator
  unfold order
  split
  · next m n hm hn => exact absurd ⟨m, n, hm, hn⟩ h
  · split
    · exact absurd ⟨_, _, rfl, rfl⟩ htexts
    · exact ⟨_, congrArg Except.error hreport⟩
  · next hnone => exact absurd hb (hnone _ _ ha)

/-- Two values are ordered from both sides, and unless they are texts they are equal if they are
ordered as equal; or they are refused from both sides. -/
theorem order_cases (left right : Value) (hl : left.isShort = true) (hr : right.isShort = true)
    (hnl : left.isNaN = false) (hnr : right.isNaN = false) :
    (∃ o, OrderedAs left right o ∧ OrderedAs right left o.swap ∧
        ((∃ s t, left = text s ∧ right = text t) ∨ left.equal right = .ok (o == .eq))) ∨
      Unordered left right ∧ Unordered right left := by
  by_cases hnumbers : ∃ m n, left.number? = .ok (some m) ∧ right.number? = .ok (some n)
  · obtain ⟨m, n, hm, hn⟩ := hnumbers
    obtain ⟨o, ho⟩ := Number.exists_order? m n (number?_isNaN left m hnl hm)
      (number?_isNaN right n hnr hn)
    have hswap := Number.order?_swap m n
    rw [ho, Option.map_some] at hswap
    refine .inl ⟨o, fun operator => ?_, fun operator => ?_, ?_⟩
    · rw [order_of_number? left right m n hm hn, ho]
    · rw [order_of_number? right left n m hn hm, ← hswap]
    · by_cases htexts : ∃ s t, left = text s ∧ right = text t
      · exact .inl htexts
      · rw [equal_of_number? left right m n hm hn htexts, Number.equal, ho]
        exact .inr rfl
  have hnumbers' : ¬ ∃ n m, right.number? = .ok (some n) ∧ left.number? = .ok (some m) := by
    rintro ⟨n, m, hn, hm⟩
    exact hnumbers ⟨m, n, hm, hn⟩
  by_cases htexts : ∃ s t, left = text s ∧ right = text t
  · obtain ⟨s, t, rfl, rfl⟩ := htexts
    refine .inl ⟨textOrder s t, fun operator => ?_, fun operator => ?_, .inl ⟨s, t, rfl, rfl⟩⟩
    · exact order_texts s t hl hr hnumbers operator
    · rw [order_texts t s hr hl hnumbers', textOrder_swap]
  · refine .inr ⟨unordered_of_not_numbers left right hl hr hnumbers htexts,
      unordered_of_not_numbers right left hr hl hnumbers' ?_⟩
    rintro ⟨t, s, ht, hs⟩
    exact htexts ⟨s, t, hs, ht⟩

/-! ## The operators -/

/-- The order that an operator asks for is refused. -/
def Refuses (left right : Value) (operator : String) : Prop :=
  ∃ e, left.compare right operator = .error (.refused e)

/-- An operator says of ordered values whether the order is one that it stands for. -/
theorem compare_of_orderedAs (left right : Value) (o : Ordering) (h : OrderedAs left right o)
    (r : Relation) (hr : r.isEquality = false) :
    left.compare right r.symbol = .ok (r.holds (some o)) := by
  rw [compare, h, Relation.orderOfSymbol?_symbol r hr]
  rfl

theorem refuses_of_unordered (left right : Value) (h : Unordered left right)
    (operator : String) : left.Refuses right operator := by
  obtain ⟨e, he⟩ := h operator
  exact ⟨e, by rw [compare, he]; rfl⟩

theorem not_refuses_of_orderedAs (left right : Value) (o : Ordering)
    (h : OrderedAs left right o) (r : Relation) (hr : r.isEquality = false) :
    ¬ left.Refuses right r.symbol := by
  rintro ⟨e, he⟩
  rw [compare_of_orderedAs left right o h r hr] at he
  cases he

/-- **Order and equality fit together.** Let two values hold no integer and no text that spells one
beyond the digit limit, and let neither be "not a number". Then one order operator refuses them only
if all four do, from either side. If they are not refused, `<` and `>` change places when the values
do, `<=` is the opposite of `>`, and `>=` the opposite of `<`; and unless both values are texts,
exactly one of `<`, equality and `>` holds. -/
theorem compare_coherent (left right : Value) (hl : left.isShort = true)
    (hr : right.isShort = true) (hnl : left.isNaN = false) (hnr : right.isNaN = false) :
    (∀ p q : Relation, p.isEquality = false → q.isEquality = false →
      (left.Refuses right p.symbol ↔ left.Refuses right q.symbol) ∧
        (left.Refuses right p.symbol ↔ right.Refuses left q.symbol)) ∧
    (¬ left.Refuses right "<" → ∃ less greater,
      left.compare right "<" = .ok less ∧ right.compare left ">" = .ok less ∧
      left.compare right ">" = .ok greater ∧ right.compare left "<" = .ok greater ∧
      left.compare right "<=" = .ok (!greater) ∧ right.compare left ">=" = .ok (!greater) ∧
      left.compare right ">=" = .ok (!less) ∧ right.compare left "<=" = .ok (!less) ∧
      ((¬ ∃ s t, left = text s ∧ right = text t) → ∃ equal,
        left.equal right = .ok equal ∧ [less, equal, greater].count true = 1)) := by
  rcases order_cases left right hl hr hnl hnr with ⟨o, ho, hswap, hequal⟩ | ⟨hunordered, hswap⟩
  · refine ⟨fun p q hp hq => ?_, fun _ => ?_⟩
    · have hleft := not_refuses_of_orderedAs left right o ho
      have hright := not_refuses_of_orderedAs right left o.swap hswap
      exact ⟨iff_of_false (hleft p hp) (hleft q hq), iff_of_false (hleft p hp) (hright q hq)⟩
    · have hleft := compare_of_orderedAs left right o ho
      have hright := compare_of_orderedAs right left o.swap hswap
      have hle := hleft .le rfl
      have hge := hleft .ge rfl
      have hlt' := hright .lt rfl
      have hle' := hright .le rfl
      have hgt' := hright .gt rfl
      have hge' := hright .ge rfl
      rw [Relation.holds_le] at hle hle'
      rw [Relation.holds_ge] at hge hge'
      rw [Relation.holds_gt_swap] at hgt' hle'
      rw [Relation.holds_lt_swap] at hlt' hge'
      refine ⟨_, _, hleft .lt rfl, hgt', hleft .gt rfl, hlt', hle, hge', hge, hle', ?_⟩
      intro htexts
      refine ⟨o == .eq, hequal.resolve_left htexts, ?_⟩
      cases o <;> rfl
  · refine ⟨fun p q _ _ => ?_, fun h => ?_⟩
    · have hleft := refuses_of_unordered left right hunordered
      have hright := refuses_of_unordered right left hswap
      exact ⟨iff_of_true (hleft _) (hleft _), iff_of_true (hleft _) (hright _)⟩
    · exact absurd (refuses_of_unordered left right hunordered "<") h

/-- A text that spells a number, blanks around it, and the number one half. -/
theorem compare_coherent_numeral :
    let left : Value := text " 9 "
    let right : Value := number (.binary (.finite false 4503599627370496 (-53)))
    left.isShort = true ∧ right.isShort = true ∧ left.isNaN = false ∧ right.isNaN = false ∧
      ¬ left.Refuses right "<" ∧ ∃ less greater equal,
        left.compare right "<" = .ok less ∧ left.compare right "<=" = .ok (!greater) ∧
        right.compare left ">" = .ok less ∧ left.equal right = .ok equal ∧
        [less, equal, greater].count true = 1 := by
  intro left right
  have hshort : left.isShort = true := by decide
  have hnine : left.number? = .ok (some (.whole 9)) := by rfl
  have hhalf : right.number? = .ok (some (.binary (.finite false 4503599627370496 (-53)))) := rfl
  obtain ⟨o, ho⟩ := Number.exists_order? (.whole 9) (.binary (.finite false 4503599627370496 (-53)))
    rfl rfl
  have hordered : OrderedAs left right o := fun operator => by
    rw [order_of_number? left right _ _ hnine hhalf, ho]
  have hnot := not_refuses_of_orderedAs left right o hordered .lt rfl
  obtain ⟨less, greater, hlt, hgt', -, -, hle, -, -, -, hequal⟩ :=
    (compare_coherent left right hshort rfl rfl rfl).2 hnot
  obtain ⟨equal, heq, hone⟩ := hequal nofun
  exact ⟨hshort, rfl, rfl, rfl, hnot, less, greater, equal, hlt, hle, hgt', heq, hone⟩

end Value

end Stencil
