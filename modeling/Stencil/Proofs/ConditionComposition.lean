import Stencil.Proofs.ConditionPrinting

/-!
# Conditions put together as texts

Two conditions in parentheses with an operator between them, and a condition in parentheses with a
negation before it, mean what the operator and the negation say about the conditions alone. Nothing
is assumed of the texts but that they can be read, with room for the parentheses: the text of a
condition may hold blanks, words for operators, and parentheses in its strings.

The closing parenthesis ends the last lexeme of the text before it (`EndsLexemes`), so the tokens of
a text are the same in parentheses (`spelled_of_spells`), and the grammar puts the derivations
together. Evaluation then looks at the second condition only if the first one does not settle the
answer. How many logical operators may stand around one another plays no part as long as there are
fewer than that in all (`valueIn_of_operators_le`).

## Key results

- `spelled_of_spells`: the tokens of a text are read from it before a boundary.
- `parse_both`, `parse_either`, `parse_negation`: what is read from texts in parentheses.
- `evaluate_composed`: what conditions that are put together say.
-/

namespace Stencil

open Stencil.Text

/-- A space or a closing parenthesis ends a lexeme. -/
theorem endsLexemes_of_isBoundary (rest : List Char) (h : IsBoundary rest) : EndsLexemes rest := by
  intro c hc
  rcases h c hc with rfl | rfl <;> decide

namespace Condition

/-! ## Tokens -/

/-- The tokens of a text are read from it before a boundary as well. -/
theorem spelled_of_spells (s : List Char) (ts : List Token) (h : Spells s ts) : Spelled s ts := by
  intro rest us hrest hus
  unfold Spells at h
  generalize 0 = offset at h
  -- on the scan of the text
  induction offset, s using scan.induct generalizing ts with
  | case1 offset =>
    rw [scan] at h
    cases h
    exact hus
  | case2 offset c s hc ih =>
    rw [scan, if_pos hc] at h
    exact spells_blank c _ _ hc (ih ts h)
  | case3 offset c s hc hl =>
    rw [spelled_scan_stray offset c s hc hl] at h
    cases h
  | case4 offset c s hc l hl _ _ _ ih | case5 offset c s hc l hl _ _ _ ih =>
    rw [spelled_scan_cons offset c s l hc hl] at h
    cases hscan : spelled (scan (offset + l.width) l.rest) with
    | error stray =>
      rw [hscan] at h
      cases h
    | ok more =>
      rw [hscan] at h
      cases h
      -- the lexeme is the same before the boundary
      exact spells_lexeme c _ _ l.token l.width _ (by simpa using hc)
        (lexeme?_seam rest (endsLexemes_of_isBoundary rest hrest) c s l hl) (ih more hscan)

/-- A text in parentheses, whatever follows. -/
theorem spells_group (s rest : List Char) (ts us : List Token) (hs : Spells s ts)
    (h : Spells rest us) :
    Spells ('(' :: (s ++ ')' :: rest)) (.opening :: (ts ++ .closing :: us)) :=
  spells_opening _ _
    (spelled_of_spells s ts hs _ _ (isBoundary_closing rest) (spells_closing rest us h))

/-! ## Expressions -/

/-- A condition in parentheses is an operand. -/
theorem Derives.parenthesized {ts : List Token} {e : Expr} (h : Derives .disjunction ts e) :
    Derives .equality (.opening :: (ts ++ [.closing])) (.group e) :=
  .relational (.unary (.primary (.group h)))

section Parse

variable (text₁ text₂ : String) (e₁ e₂ : Expr) (h₁ : parse text₁ = .ok e₁)
  (h₂ : parse text₂ = .ok e₂) (hroom₁ : e₁.nesting < nestingLimit)
  (hroom₂ : e₂.nesting < nestingLimit)

include h₁ h₂ hroom₁ hroom₂

/-- Two texts in parentheses and an operator between them that makes a condition of two groups. -/
theorem parse_joined (operator : List Char) (t : Token) (e : Expr) (text : String)
    (htext : text.toList = '(' :: (text₁.toList ++
      ')' :: ' ' :: (operator ++ ' ' :: '(' :: (text₂.toList ++ [')']))))
    (hoperator : ∀ s ts, Spells s ts → Spells (' ' :: (operator ++ ' ' :: s)) (t :: ts))
    (hrule : ∀ ts us, Derives .equality ts (.group e₁) → Derives .equality us (.group e₂) →
      Derives .disjunction (ts ++ t :: us) e)
    (hnesting : e.nesting = max (e₁.nesting + 1) (e₂.nesting + 1)) : parse text = .ok e := by
  obtain ⟨ts, hs₁, hd₁, -⟩ := (parse_eq_ok_iff_spells text₁ e₁).1 h₁
  obtain ⟨us, hs₂, hd₂, -⟩ := (parse_eq_ok_iff_spells text₂ e₂).1 h₂
  have hspells := spells_group text₁.toList _ ts _ hs₁
    (hoperator _ _ (spells_group text₂.toList [] us [] hs₂ spells_nil))
  have hderives := hrule _ _ hd₁.parenthesized hd₂.parenthesized
  rw [parse_eq_ok_iff_spells, htext]
  refine ⟨_, hspells, ?_, ?_⟩
  · simpa using hderives
  · omega

theorem parse_both :
    parse ("(" ++ text₁ ++ ") && (" ++ text₂ ++ ")") = .ok (.both (.group e₁) (.group e₂)) :=
  parse_joined text₁ text₂ e₁ e₂ h₁ h₂ hroom₁ hroom₂ ['&', '&'] .and _ _ (by simp) spells_and
    (fun _ _ hl hr => .conjunction (.and (.equality hl) hr)) rfl

theorem parse_either :
    parse ("(" ++ text₁ ++ ") || (" ++ text₂ ++ ")") = .ok (.either (.group e₁) (.group e₂)) :=
  parse_joined text₁ text₂ e₁ e₂ h₁ h₂ hroom₁ hroom₂ ['|', '|'] .or _ _ (by simp) spells_or
    (fun _ _ hl hr => .or (.conjunction (.equality hl)) (.equality hr)) rfl

end Parse

theorem parse_negation (text : String) (e : Expr) (h : parse text = .ok e)
    (hroom : e.nesting + 1 < nestingLimit) :
    parse ("!(" ++ text ++ ")") = .ok (.negation (.group e)) := by
  obtain ⟨ts, hs, hd, -⟩ := (parse_eq_ok_iff_spells text e).1 h
  have hspells := spells_not _ _ (by simp) (spells_group text.toList [] ts [] hs spells_nil)
  have htext : ("!(" ++ text ++ ")").toList = '!' :: '(' :: (text.toList ++ [')']) := by simp
  rw [parse_eq_ok_iff_spells, htext]
  refine ⟨_, hspells, ?_, ?_⟩
  · exact .conjunction (.equality (.relational (.unary (.not (.primary (.group hd))))))
  · show e.nesting + 1 + 1 ≤ nestingLimit
    omega

/-! ## Evaluation -/

/-- How many logical operators are in a condition. -/
def Expr.operators : Expr → Nat
  | .literal _ | .path _ => 0
  | .compare _ left right => left.operators + right.operators
  | .both left right | .either left right => left.operators + right.operators + 1
  | .negation e | .group e => e.operators

/-- Where there is room for all logical operators, how much room there is plays no part. -/
theorem valueIn_of_operators_le (look : String → Value) (e : Expr) (room room' : Nat)
    (h : e.operators ≤ room) (h' : e.operators ≤ room') :
    e.valueIn look room = e.valueIn look room' := by
  induction e generalizing room room' with
  | literal l => rfl
  | path name => rfl
  | group e ih => exact ih room room' h h'
  | negation e ih => rw [Expr.valueIn, Expr.valueIn, ih room room' h h']
  | compare r left right ihl ihr =>
    rw [Expr.operators] at h h'
    rw [Expr.valueIn, Expr.valueIn, ihl room room' (by omega) (by omega),
      ihr room room' (by omega) (by omega)]
  | both left right ihl ihr | either left right ihl ihr =>
    rw [Expr.operators] at h h'
    -- the operator takes one from the room
    obtain ⟨room, rfl⟩ := Nat.exists_eq_succ_of_ne_zero (show room ≠ 0 by omega)
    obtain ⟨room', rfl⟩ := Nat.exists_eq_succ_of_ne_zero (show room' ≠ 0 by omega)
    rw [Expr.valueIn, Expr.valueIn, ihl room room' (by omega) (by omega),
      ihr room room' (by omega) (by omega)]

/-- Under one logical operator a condition has the value that it has alone. -/
theorem valueIn_eq_value (look : String → Value) (e : Expr) (h : e.operators < operatorLimit) :
    e.valueIn look (operatorLimit - 1) = e.value look :=
  valueIn_of_operators_le look e _ operatorLimit (Nat.le_sub_one_of_lt h) (Nat.le_of_lt h)

section Evaluate

variable (look : String → Value) (e₁ e₂ : Expr) (h₁ : e₁.operators < operatorLimit)
  (h₂ : e₂.operators < operatorLimit)

include h₁ h₂

/-- The second condition is evaluated only if the first one holds. -/
theorem holds_both :
    (Expr.both (.group e₁) (.group e₂)).holds look = match e₁.holds look with
      | .ok true => e₂.holds look
      | other => other := by
  have hvalue : (Expr.both (.group e₁) (.group e₂)).value look = do
      let l ← e₁.valueIn look (operatorLimit - 1)
      if l.isTruthy then
        let v ← e₂.valueIn look (operatorLimit - 1)
        return .bool v.isTruthy
      else return .bool false := rfl
  rw [valueIn_eq_value look e₁ h₁, valueIn_eq_value look e₂ h₂] at hvalue
  unfold Expr.holds
  rw [hvalue]
  cases e₁.value look with
  | error failure => rfl
  | ok l =>
    dsimp only [bind, Except.bind, Except.map]
    cases l.isTruthy with
    | false => rfl
    | true => cases e₂.value look <;> rfl

/-- The second condition is evaluated only if the first one does not hold. -/
theorem holds_either :
    (Expr.either (.group e₁) (.group e₂)).holds look = match e₁.holds look with
      | .ok false => e₂.holds look
      | other => other := by
  have hvalue : (Expr.either (.group e₁) (.group e₂)).value look = do
      let l ← e₁.valueIn look (operatorLimit - 1)
      if l.isTruthy then return .bool true
      else
        let v ← e₂.valueIn look (operatorLimit - 1)
        return .bool v.isTruthy := rfl
  rw [valueIn_eq_value look e₁ h₁, valueIn_eq_value look e₂ h₂] at hvalue
  unfold Expr.holds
  rw [hvalue]
  cases e₁.value look with
  | error failure => rfl
  | ok l =>
    dsimp only [bind, Except.bind, Except.map]
    cases l.isTruthy with
    | false => cases e₂.value look <;> rfl
    | true => rfl

end Evaluate

theorem holds_negation (look : String → Value) (e : Expr) :
    (Expr.negation (.group e)).holds look = (e.holds look).map (!·) := by
  have hvalue : (Expr.negation (.group e)).value look =
      (e.value look).bind fun v => .ok (.bool !v.isTruthy) := rfl
  unfold Expr.holds
  rw [hvalue]
  cases e.value look <;> rfl

/-- Evaluating a text that can be read is evaluating its expression. -/
theorem evaluate_of_parse (look : String → Value) (text : String) (e : Expr)
    (h : parse text = .ok e) : evaluate look text = e.holds look := by
  rw [evaluate, read_eq, h]
  rfl

end Condition

/-! ## Blocks -/

open Renderer

/-- What a conditional gives by the value of its condition: its body, nothing, or nothing and a
warning, unless an integer of too many digits ends the rendering. -/
theorem renderIn_conditional (scope : Scope) (text : String) (i : Nat)
    (body : List Template.Node) :
    renderIn scope [.conditional text i body] = match Condition.evaluate scope.lookup text with
      | .ok true => renderIn scope body
      | .ok false => ⟨.ok "", []⟩
      | .error failure =>
        let verdict := Condition.verdict text (.error failure)
        ⟨verdict.1.map fun _ => "", verdict.2⟩ := by
  rw [renderIn_eq_outcomes, renderIn_eq_outcomes, outcomes, outcomes, Rendered.append_empty,
    outcome, judgeIn_eq_verdict]
  cases Condition.evaluate scope.lookup text with
  | ok b =>
    cases b with
    | true => exact Rendered.empty_append _
    | false => rfl
  | error failure => cases failure <;> rfl

namespace Condition

/-- Conditions compose at the level of texts. Let two texts be read as conditions, nothing in which
stands under more than 62 negations and parentheses, with fewer than 150 logical operators in all.
In parentheses with `&&` between them they say what the first one says if that is false or a
failure, and else what the second one says; with `||` between them, what the first one says if that
is true or a failure, and else what the second one says; and with `!` before it, the first one says
the contrary, or fails alike. So of two blocks for a condition and for its negation just one is
rendered, unless the condition fails: then both give no text. -/
theorem evaluate_composed (text₁ text₂ : String) (e₁ e₂ : Expr) (h₁ : parse text₁ = .ok e₁)
    (h₂ : parse text₂ = .ok e₂) (hnesting₁ : e₁.nesting ≤ 62) (hnesting₂ : e₂.nesting ≤ 62)
    (hoperators : e₁.operators + e₂.operators < 150) :
    (∀ look, evaluate look ("(" ++ text₁ ++ ") && (" ++ text₂ ++ ")") =
      match evaluate look text₁ with
      | .ok true => evaluate look text₂
      | other => other) ∧
    (∀ look, evaluate look ("(" ++ text₁ ++ ") || (" ++ text₂ ++ ")") =
      match evaluate look text₁ with
      | .ok false => evaluate look text₂
      | other => other) ∧
    (∀ look, evaluate look ("!(" ++ text₁ ++ ")") = (evaluate look text₁).map (!·)) ∧
    ∀ scope i j body other,
      let block := renderIn scope [.conditional text₁ i body]
      let opposite := renderIn scope [.conditional ("!(" ++ text₁ ++ ")") j other]
      match evaluate scope.lookup text₁ with
      | .ok true => block = renderIn scope body ∧ opposite = ⟨.ok "", []⟩
      | .ok false => block = ⟨.ok "", []⟩ ∧ opposite = renderIn scope other
      | .error failure =>
        block.text = (if failure = .overlong then .error .overlong else .ok "") ∧
          opposite.text = if failure = .overlong then .error .overlong else .ok "" := by
  have hroom₁ : e₁.nesting + 1 < nestingLimit := Nat.lt_of_le_of_lt (Nat.succ_le_succ hnesting₁)
    (by decide)
  have hroom₂ : e₂.nesting < nestingLimit := Nat.lt_of_le_of_lt hnesting₂ (by decide)
  have hfew₁ : e₁.operators < operatorLimit := Nat.lt_of_le_of_lt (Nat.le_add_right _ _)
    (Nat.lt_trans hoperators (by decide))
  have hfew₂ : e₂.operators < operatorLimit := Nat.lt_of_le_of_lt (Nat.le_add_left _ _)
    (Nat.lt_trans hoperators (by decide))
  have hvalue₁ := fun look => evaluate_of_parse look text₁ e₁ h₁
  have hvalue₂ := fun look => evaluate_of_parse look text₂ e₂ h₂
  have hnegation : ∀ look, evaluate look ("!(" ++ text₁ ++ ")") =
      (evaluate look text₁).map (!·) := by
    intro look
    rw [hvalue₁, evaluate_of_parse look _ _ (parse_negation text₁ e₁ h₁ hroom₁)]
    exact holds_negation look e₁
  refine ⟨fun look => ?_, fun look => ?_, hnegation, fun scope i j body other => ?_⟩
  · have hparse := parse_both text₁ text₂ e₁ e₂ h₁ h₂ (Nat.lt_of_succ_lt hroom₁) hroom₂
    rw [hvalue₁, hvalue₂, evaluate_of_parse look _ _ hparse]
    exact holds_both look e₁ e₂ hfew₁ hfew₂
  · have hparse := parse_either text₁ text₂ e₁ e₂ h₁ h₂ (Nat.lt_of_succ_lt hroom₁) hroom₂
    rw [hvalue₁, hvalue₂, evaluate_of_parse look _ _ hparse]
    exact holds_either look e₁ e₂ hfew₁ hfew₂
  · dsimp only
    rw [renderIn_conditional, renderIn_conditional, hnegation]
    cases evaluate scope.lookup text₁ with
    | ok b => cases b <;> exact ⟨rfl, rfl⟩
    | error failure => cases failure <;> exact ⟨rfl, rfl⟩

/-- A parenthesis in a string and a word for an operator before a condition that fails. -/
theorem evaluate_composed_quoted :
    let scope : Scope := .root (.object [("a", .text "(")]) []
    let text₁ := "a == '(' or b"
    let text₂ := "b < c"
    let e₁ : Expr := .either (.compare .eq (.path "a") (.literal (.text "("))) (.path "b")
    let e₂ : Expr := .compare .lt (.path "b") (.path "c")
    (parse text₁ = .ok e₁ ∧ parse text₂ = .ok e₂ ∧ e₁.nesting ≤ 62 ∧ e₂.nesting ≤ 62 ∧
      e₁.operators + e₂.operators < 150) ∧
    evaluate scope.lookup ("(" ++ text₁ ++ ") && (" ++ text₂ ++ ")") =
      .error (.refused (.incomparable "UNDEFINED" "<" "UNDEFINED")) ∧
    evaluate scope.lookup ("(" ++ text₁ ++ ") || (" ++ text₂ ++ ")") = .ok true ∧
    evaluate scope.lookup ("!(" ++ text₁ ++ ")") = .ok false ∧
    (renderIn scope [.conditional text₁ 0 [.text "x"]]).text = .ok "x" ∧
    (renderIn scope [.conditional ("!(" ++ text₁ ++ ")") 9 [.text "y"]]).text = .ok "" := by
  intro scope text₁ text₂ e₁ e₂
  have h₁ : parse text₁ = .ok e₁ := by decide +kernel
  have h₂ : parse text₂ = .ok e₂ := by decide +kernel
  have hvalue₁ : evaluate scope.lookup text₁ = .ok true := by
    rw [evaluate_of_parse _ _ _ h₁]
    decide +kernel
  have hvalue₂ : evaluate scope.lookup text₂ =
      .error (.refused (.incomparable "UNDEFINED" "<" "UNDEFINED")) := by
    rw [evaluate_of_parse _ _ _ h₂]
    decide +kernel
  obtain ⟨hboth, heither, hnegation, hblocks⟩ :=
    evaluate_composed text₁ text₂ e₁ e₂ h₁ h₂ (by decide) (by decide) (by decide)
  have hrendered := hblocks scope 0 9 [.text "x"] [.text "y"]
  rw [hvalue₁] at hrendered
  obtain ⟨hblock, hopposite⟩ := hrendered
  refine ⟨⟨h₁, h₂, by decide, by decide, by decide⟩, ?_, ?_, ?_, ?_, ?_⟩
  · rw [hboth, hvalue₁, ← hvalue₂]
  · rw [heither, hvalue₁]
  · rw [hnegation, hvalue₁]
    rfl
  · rw [hblock, renderIn_eq_outcomes]
    rfl
  · rw [hopposite]

end Condition

end Stencil
