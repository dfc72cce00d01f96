import Stencil.Condition.Eval

/-!
# Readers are used again

A reader gives the same for a text whatever it was left with, and what it gives is what the text
spells (`Condition.parse`). The depth that the reader counts is that of the levels around the token
to come: before an operand it is `Open.depth`, after an operand the negations of the level are given
back. So the limit on nesting is reached where `Condition.readOperand` reaches it, and that only
because a reading begins at depth zero.

## Key results

- `result_readOperand_cons`, `result_readOperator_cons`: what a reader gives at one token.
- `readsOn`: what it gives on its way, from any position and at the right depth.
- `parse_eq`: what a reader gives for a text.
- `read_eq`: what evaluating a condition begins with.
-/

namespace Stencil.Condition

namespace Reader

/-- The reader is before the tokens, and its depth is as given. -/
structure IsBefore (r : Reader) (ts : List Located) (depth : Nat) : Prop where
  rest : r.rest = ts
  depth : r.depth = depth

/-- After the first of the tokens to come, whatever becomes of the depth. -/
theorem isBefore_next (r : Reader) (t : Located) (ts : List Located) (depth count : Nat)
    (h : r.IsBefore (t :: ts) depth) :
    (Reader.mk r.tokens (r.position + 1) count).IsBefore ts count := by
  have hrest : r.tokens.tokens.drop r.position = t :: ts := h.rest
  refine ⟨?_, rfl⟩
  rw [rest, ← List.tail_drop, hrest]
  rfl

/-- A failure at the token to come. -/
theorem result_failHere {α : Type} (problem : SyntaxProblem) (r : Reader) (ts : List Located)
    (h : r.rest = ts) :
    result ((failHere (α := α) problem).run r) = fail problem (offsetOf r.tokens.stop ts) := by
  rw [← h]
  rfl

/-- Going into a negation or a parenthesis that the next token begins. -/
theorem result_descend {α : Type} (m : ReaderM α) (r : Reader) (t : Located)
    (ts : List Located) (depth : Nat) (h : r.IsBefore (t :: ts) depth) :
    result ((do advance; descend; m).run r) =
      if depth < nestingLimit then result (m.run ⟨r.tokens, r.position + 1, depth + 1⟩)
      else fail .tooNested (offsetOf r.tokens.stop ts) := by
  have hnext := isBefore_next r t ts depth (depth + 1) h
  have hdescend : descend.run ⟨r.tokens, r.position + 1, r.depth⟩ =
      (if nestingLimit < depth + 1 then failHere .tooNested else pure ()).run
        ⟨r.tokens, r.position + 1, depth + 1⟩ := by
    rw [← h.depth]
    rfl
  have hstep : (do advance; descend; m).run r =
      EStateM.bind descend (fun _ => m) ⟨r.tokens, r.position + 1, r.depth⟩ := rfl
  rw [hstep, EStateM.bind]
  by_cases hroom : depth < nestingLimit
  · rw [if_neg (Nat.not_lt.2 hroom)] at hdescend
    rw [if_pos hroom, show descend _ = _ from hdescend]
    rfl
  · rw [if_pos (Nat.lt_succ_of_le (Nat.not_lt.1 hroom))] at hdescend
    rw [if_neg hroom, show descend _ = _ from hdescend, ← hnext.rest]
    rfl

/-- A reader before the tokens gives what is read on from there, whether an operand has to come or
has come. The depth is the invariant. -/
structure ReadsOn (ts : List Located) : Prop where
  operand : ∀ (o : Open) (r : Reader), r.IsBefore ts o.depth →
    result ((readOperand o ts).run r) = Condition.readOperand nestingLimit r.tokens.stop o ts
  operator : ∀ (o : Open) (operand : Expr) (r : Reader), r.IsBefore ts (used o.around) →
    result ((readOperator o operand ts).run r) =
      Condition.readOperator nestingLimit r.tokens.stop o operand ts

theorem readsOn_nil : ReadsOn [] where
  operand o r h := result_failHere _ r [] h.rest
  operator o operand r h := by
    rw [readOperator, Condition.readOperator]
    cases o.around with
    | nil => rfl
    | cons outer around => exact result_failHere _ ⟨r.tokens, r.position, _⟩ [] h.rest

/-- A negation, an opening parenthesis, or an operand that is one token. -/
theorem result_readOperand_cons (t : Located) (ts : List Located) (on : ReadsOn ts) (o : Open)
    (r : Reader) (h : r.IsBefore (t :: ts) o.depth) :
    result ((readOperand o (t :: ts)).run r) =
      Condition.readOperand nestingLimit r.tokens.stop o (t :: ts) := by
  have hnext := fun count => isBefore_next r t ts o.depth count h
  rw [readOperand]
  split
  · next hnot =>
    rw [result_descend _ r t ts o.depth h]
    split
    · next hroom =>
      rw [readOperand_not _ _ o t ts hnot hroom]
      refine on.operand o.negate _ ⟨(hnext _).rest, ?_⟩
      show o.level.negations + used o.around + 1 = o.level.negations + 1 + used o.around
      omega
    · next hroom => exact (readOperand_tooNested _ _ o t ts (.inl hnot) hroom).symm
  · next hopening =>
    rw [result_descend _ r t ts o.depth h]
    split
    · next hroom =>
      rw [readOperand_opening _ _ o t ts hopening hroom]
      refine on.operand o.enter _ ⟨(hnext _).rest, ?_⟩
      show o.level.negations + used o.around + 1 = 0 + (o.level.negations + used o.around + 1)
      omega
    · next hroom => exact (readOperand_tooNested _ _ o t ts (.inr hopening) hroom).symm
  · next hnot hopening =>
    rw [readOperand_primary _ _ o t ts hnot hopening]
    cases hop : operand? t.token with
    | none => exact result_failHere _ r _ h.rest
    | some operand =>
      cases operand with
      | error e => rfl
      | ok operand =>
        -- the negations before the operand are given back
        refine on.operator o operand ⟨r.tokens, r.position + 1, r.depth - o.level.negations⟩
          ⟨(hnext _).rest, ?_⟩
        rw [h.depth]
        exact Nat.add_sub_cancel_left _ _

/-- An operator, a closing parenthesis, or a token that cannot stand here. -/
theorem result_readOperator_cons (t : Located) (ts : List Located) (on : ReadsOn ts) (o : Open)
    (operand : Expr) (r : Reader) (h : r.IsBefore (t :: ts) (used o.around)) :
    result ((readOperator o operand (t :: ts)).run r) =
      Condition.readOperator nestingLimit r.tokens.stop o operand (t :: ts) := by
  have hnext := fun count => isBefore_next r t ts _ count h
  rw [readOperator]
  split
  · next level hlevel =>
    rw [readOperator_operator _ _ o operand t ts level hlevel]
    refine on.operand ⟨level, o.around⟩ ⟨r.tokens, r.position + 1, r.depth⟩ ⟨(hnext _).rest, ?_⟩
    show r.depth = level.negations + used o.around
    rw [o.level.negations_operator? level operand t.token hlevel, Nat.zero_add, h.depth]
  · next hop =>
    split
    · next ho =>
      rw [readOperator_unexpected _ _ o operand t ts hop ho]
      exact result_failHere _ r _ h.rest
    · next outer around ho =>
      by_cases ht : t.token = .closing
      · rw [readOperator_closing _ _ o operand t ts outer around hop ho ht, if_pos ht]
        refine on.operator ⟨outer, around⟩ _
          ⟨r.tokens, r.position + 1, r.depth - 1 - outer.negations⟩ ⟨(hnext _).rest, ?_⟩
        have hdepth := h.depth
        rw [ho] at hdepth
        rw [hdepth]
        show outer.negations + used around + 1 - 1 - outer.negations = used around
        omega
      · rw [readOperator_unclosed _ _ o operand t ts outer around hop ho ht, if_neg ht]
        exact result_failHere _ ⟨r.tokens, r.position, _⟩ _ h.rest

theorem readsOn (ts : List Located) : ReadsOn ts := by
  induction ts with
  | nil => exact readsOn_nil
  | cons t ts on =>
    exact ⟨result_readOperand_cons t ts on, result_readOperator_cons t ts on⟩

/-- Whatever a reader was left with, it gives for a text what the text spells. -/
theorem parse_eq (r : Reader) (text : String) : r.parse text = Condition.parse text := by
  unfold parse read Condition.parse
  cases tokenize text with
  | error stray => rfl
  | ok ts =>
    have hstart : (Reader.mk ts 0 0).IsBefore ts.tokens Open.start.depth := ⟨rfl, rfl⟩
    have hsteps := (readsOn ts.tokens).operand .start ⟨ts, 0, 0⟩ hstart
    dsimp only
    rw [parseTokens]
    by_cases hempty : ts.tokens.isEmpty
    · rw [if_pos hempty, if_pos hempty]
      rfl
    · rw [if_neg hempty, if_neg hempty]
      exact hsteps

end Reader

theorem read_eq (text : String) : read text = (parse text).mapError Failure.ofParse := by
  rw [read, Reader.parse_eq]

end Stencil.Condition
