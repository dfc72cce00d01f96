import Mathlib.Tactic.IntervalCases
import Stencil.Proofs.ConditionParserCorrect

/-!
# Where a syntax error stands

A condition that is refused, if not for its nesting, is refused at the first token that cannot stand
there. The tokens before it can be completed: an operand, if one has to come, and the closing
parentheses that are missing make a condition of them. With the token they cannot, whatever follows
it; the grammar has no such condition at any depth. If the condition is refused at its end, what is
there is no condition, but the beginning of one.

The parser decides on each token when it comes and never goes back. So both facts are plain in the
state in which it stops, and from there they are carried back token by token to the first state
(`RefusedAt.cons`).

## Key results

- `completable_readOperand`, `completable_readOperator`: every state can be completed.
- `operandErrors_cons`, `operatorErrors_cons`: one token before others of which it is known.
- `read_refusedAt`: the place of an error, from any state on.
- `parse_error_place`: the place of an error in a text.
-/

namespace Stencil.Condition

/-! ## Runs and their errors -/

section Runs

variable (limit stop : Nat) (run : Nat → Nat → List Located → Except ParseFailure Expr)

/-- Some tokens are read as a condition, wherever the text ends. -/
def Completable : Prop := ∃ more e, ∀ stop, run limit stop more = .ok e

/-- No tokens that begin with the first one of these are read as a condition, whatever follows it
and with any room for nesting; if there is no first one, the run is not over without a token. -/
def Futile : List Located → Prop
  | [] => ∀ limit' ≥ limit, ∀ stop e, run limit' stop [] ≠ .ok e
  | t :: _ => ∀ limit' ≥ limit, ∀ more stop e, run limit' stop (t :: more) ≠ .ok e

/-- At the offset stands the first of the tokens, or the end of the text, with which no condition
can be made any more. -/
def RefusedAt (ls : List Located) (offset : Nat) : Prop :=
  ∃ before after, ls = before ++ after ∧ offset = offsetOf stop after ∧
    Completable limit (fun limit stop more => run limit stop (before ++ more)) ∧
    Futile limit (fun limit stop more => run limit stop (before ++ more)) after

variable {limit stop run}

theorem RefusedAt.here {ls : List Located} (h : Completable limit run) (hls : Futile limit run ls) :
    RefusedAt limit stop run ls (offsetOf stop ls) :=
  ⟨[], ls, rfl, rfl, h, hls⟩

/-- A token that is read leads to another run, with more room for nesting as well. -/
theorem RefusedAt.cons {next : Nat → Nat → List Located → Except ParseFailure Expr} {t : Located}
    {ls : List Located} {offset : Nat}
    (hstep : ∀ limit' ≥ limit, ∀ stop rest, run limit' stop (t :: rest) = next limit' stop rest)
    (h : RefusedAt limit stop next ls offset) : RefusedAt limit stop run (t :: ls) offset := by
  obtain ⟨before, after, rfl, hoffset, ⟨more, e, hmore⟩, hfutile⟩ := h
  refine ⟨t :: before, after, rfl, hoffset, ⟨more, e, fun stop => ?_⟩, ?_⟩
  · exact (hstep limit (Nat.le_refl limit) stop _).trans (hmore stop)
  · cases after with
    | nil =>
      intro limit' hlimit stop e hok
      exact hfutile limit' hlimit stop e ((hstep limit' hlimit stop _).symm.trans hok)
    | cons u after =>
      intro limit' hlimit more stop e hok
      exact hfutile limit' hlimit more stop e ((hstep limit' hlimit stop _).symm.trans hok)

end Runs

/-! ## Every state can be completed -/

/-- After an operand, the closing parentheses that are missing make a condition. -/
theorem completable_readOperator (limit : Nat) (o : Open) (p : Expr) :
    Completable limit fun limit stop => readOperator limit stop o p := by
  obtain ⟨level, around⟩ := o
  -- one parenthesis for each level around
  induction around generalizing level p with
  | nil => exact ⟨[], level.disjunction p, fun _ => rfl⟩
  | cons outer around ih =>
    obtain ⟨more, e, hmore⟩ := ih (.group (level.disjunction p)) outer
    refine ⟨⟨.closing, 0⟩ :: more, e, fun stop => ?_⟩
    exact (readOperator_closing limit stop _ p _ more outer around rfl rfl rfl).trans (hmore stop)

/-- Where an operand has to come, any path will do. -/
theorem completable_readOperand (limit : Nat) (o : Open) :
    Completable limit fun limit stop => readOperand limit stop o := by
  obtain ⟨more, e, hmore⟩ := completable_readOperator limit o (.path "x")
  refine ⟨⟨.path "x", 0⟩ :: more, e, fun stop => ?_⟩
  exact (readOperand_operand limit stop o _ _ more rfl).trans (hmore stop)

/-! ## The place of an error -/

section Errors

variable (limit stop : Nat) (ls : List Located)

/-- An error where an operand has to come, if it is not the nesting, stands at the first token with
which no condition can be made any more. -/
def OperandErrors : Prop := ∀ o problem offset, readOperand limit stop o ls = fail problem offset →
  problem ≠ .tooNested → RefusedAt limit stop (fun limit stop => readOperand limit stop o) ls offset

/-- The same of an error after an operand. -/
def OperatorErrors : Prop := ∀ o p problem offset,
  readOperator limit stop o p ls = fail problem offset → problem ≠ .tooNested →
    RefusedAt limit stop (fun limit stop => readOperator limit stop o p) ls offset

theorem operandErrors_nil : OperandErrors limit stop [] := by
  intro o problem offset h _
  cases h
  exact .here (completable_readOperand limit o) fun _ _ _ _ => nofun

/-- At the end of the text only a parenthesis can be missing. -/
theorem operatorErrors_nil : OperatorErrors limit stop [] := by
  intro o p problem offset h _
  rw [readOperator] at h
  cases ho : o.around with
  | nil =>
    rw [ho] at h
    cases h
  | cons outer around =>
    rw [ho] at h
    cases h
    refine .here (completable_readOperator limit o p) fun limit' _ stop' e hok => ?_
    rw [readOperator, ho] at hok
    cases hok

variable {limit stop ls}

theorem operandErrors_cons (t : Located) (hoperand : OperandErrors limit stop ls)
    (hoperator : OperatorErrors limit stop ls) : OperandErrors limit stop (t :: ls) := by
  intro o problem offset h hproblem
  by_cases hnot : t.token = .not
  · by_cases hroom : o.depth < limit
    · rw [readOperand_not limit stop o t ls hnot hroom] at h
      refine .cons (fun limit' hlimit stop' rest => ?_) (hoperand _ _ _ h hproblem)
      exact readOperand_not limit' stop' o t rest hnot (Nat.lt_of_lt_of_le hroom hlimit)
    · rw [readOperand, hnot] at h
      cases (if_neg hroom).symm.trans h
      exact absurd rfl hproblem
  by_cases hopening : t.token = .opening
  · by_cases hroom : o.depth < limit
    · rw [readOperand_opening limit stop o t ls hopening hroom] at h
      refine .cons (fun limit' hlimit stop' rest => ?_) (hoperand _ _ _ h hproblem)
      exact readOperand_opening limit' stop' o t rest hopening (Nat.lt_of_lt_of_le hroom hlimit)
    · rw [readOperand, hopening] at h
      cases (if_neg hroom).symm.trans h
      exact absurd rfl hproblem
  cases hop : operand? t.token with
  | none =>
    rw [readOperand_other limit stop o t ls hnot hopening hop] at h
    cases h
    refine .here (completable_readOperand limit o) fun limit' _ more stop' e hok => ?_
    cases (readOperand_other limit' stop' o t more hnot hopening hop).symm.trans hok
  | some operand =>
    cases operand with
    | ok p =>
      rw [readOperand_operand limit stop o p t ls hop] at h
      refine .cons (fun limit' _ stop' rest => ?_) (hoperator _ _ _ _ h hproblem)
      exact readOperand_operand limit' stop' o p t rest hop
    | error err =>
      -- a numeral of too many digits is no syntax error
      rw [readOperand] at h
      split at h
      · next ht => exact absurd ht hnot
      · next ht => exact absurd ht hopening
      · rw [hop] at h
        cases h

theorem operatorErrors_cons (t : Located) (hoperand : OperandErrors limit stop ls)
    (hoperator : OperatorErrors limit stop ls) : OperatorErrors limit stop (t :: ls) := by
  intro o p problem offset h hproblem
  cases hop : o.level.operator? p t.token with
  | some level =>
    rw [readOperator_operator limit stop o p t ls level hop] at h
    refine .cons (fun limit' _ stop' rest => ?_) (hoperand _ _ _ h hproblem)
    exact readOperator_operator limit' stop' o p t rest level hop
  | none =>
    by_cases ht : o.around = [] ∨ t.token ≠ .closing
    · obtain ⟨problem', herror⟩ := readOperator_other limit stop o p t ls hop ht
      cases herror.symm.trans h
      refine .here (completable_readOperator limit o p) fun limit' _ more stop' e hok => ?_
      obtain ⟨_, herror'⟩ := readOperator_other limit' stop' o p t more hop ht
      cases herror'.symm.trans hok
    · rw [not_or, not_not] at ht
      obtain ⟨outer, around, ho⟩ := List.exists_cons_of_ne_nil ht.1
      rw [readOperator_closing limit stop o p t ls outer around hop ho ht.2] at h
      refine .cons (fun limit' _ stop' rest => ?_) (hoperator _ _ _ _ h hproblem)
      exact readOperator_closing limit' stop' o p t rest outer around hop ho ht.2

end Errors

/-- Errors stand at the exact spot, in every state of the parser and before all tokens. -/
theorem read_refusedAt (limit stop : Nat) (ls : List Located) :
    OperandErrors limit stop ls ∧ OperatorErrors limit stop ls := by
  -- on the tokens: each of them is read, or the parser stops there
  induction ls with
  | nil => exact ⟨operandErrors_nil limit stop, operatorErrors_nil limit stop⟩
  | cons t ls ih =>
    obtain ⟨hoperand, hoperator⟩ := ih
    exact ⟨operandErrors_cons t hoperand hoperator, operatorErrors_cons t hoperand hoperator⟩

/-- A syntax error stands at the exact spot. A condition of one token or more that is refused, if
not for its nesting, is refused at the offset of one of its tokens or at its end. The tokens before
that one are the beginning of some list of tokens that is parsed. With the token they are not: no
list of tokens that begins with them and it is parsed, and the grammar has no such condition at any
depth. At the end of the text, the tokens of the text are no condition. -/
theorem parse_error_place (text : String) (ts : Tokens) (problem : SyntaxProblem) (offset : Nat)
    (htext : tokenize text = .ok ts) (hne : ts.tokens ≠ [])
    (herror : parse text = .error (.malformed ⟨problem, offset⟩))
    (hproblem : problem ≠ .tooNested) :
    ∃ before after, ts.tokens = before ++ after ∧ offset = offsetOf ts.stop after ∧
      (∃ more e, ∀ stop, parseTokens ⟨before ++ more, stop⟩ = .ok e) ∧
      match after with
      | [] => ∀ e, ¬ Derives .disjunction (before.map (·.token)) e ∧
          ∀ stop, parseTokens ⟨before, stop⟩ ≠ .ok e
      | t :: _ => ∀ more e, ¬ Derives .disjunction ((before ++ t :: more).map (·.token)) e ∧
          ∀ stop, parseTokens ⟨before ++ t :: more, stop⟩ ≠ .ok e := by
  have hread : readOperand nestingLimit ts.stop .start ts.tokens = fail problem offset := by
    rw [parse, htext] at herror
    change parseTokens ts = _ at herror
    rwa [parseTokens, if_neg (by rwa [List.isEmpty_iff])] at herror
  obtain ⟨before, after, hts, hoffset, ⟨more, e, hmore⟩, hfutile⟩ :=
    (read_refusedAt nestingLimit ts.stop ts.tokens).1 .start problem offset hread hproblem
  refine ⟨before, after, hts, hoffset, ⟨more, e, fun stop => ?_⟩, ?_⟩
  · -- what is read is not the empty list
    have hnonempty : before ++ more ≠ [] := by
      intro hnil
      have hrun : readOperand nestingLimit stop .start (before ++ more) = .ok e := hmore stop
      rw [hnil] at hrun
      cases hrun
    rw [parseTokens, if_neg (by rwa [List.isEmpty_iff])]
    exact hmore stop
  · -- a derivation would be read with enough room
    have hnone : ∀ ls e, (∀ limit' ≥ nestingLimit, ∀ stop,
        readOperand limit' stop .start ls ≠ .ok e) →
        ¬ Derives .disjunction (ls.map (·.token)) e ∧ ∀ stop, parseTokens ⟨ls, stop⟩ ≠ .ok e := by
      intro ls e hls
      have hderives : ¬ Derives .disjunction (ls.map (·.token)) e := fun h =>
        hls (max e.nesting nestingLimit) (Nat.le_max_right _ _) 0
          (readOperand_complete _ 0 ls e h (Nat.le_max_left _ _))
      exact ⟨hderives, fun stop h => hderives ((parseTokens_eq_ok_iff ⟨ls, stop⟩ e).1 h).1⟩
    cases after with
    | nil =>
      intro e
      refine hnone before e fun limit' hlimit stop hok => hfutile limit' hlimit stop e ?_
      show readOperand limit' stop .start (before ++ []) = .ok e
      rwa [List.append_nil]
    | cons t after =>
      exact fun more e => hnone _ e fun limit' hlimit stop => hfutile limit' hlimit more stop e

/-- A second equality among parentheses that are not closed: the error is not that nothing closes
them, which could still be mended, but the operator. -/
theorem parse_error_place_second_equality :
    let text := "(a == b == c"
    let before : List Located := [⟨.opening, 0⟩, ⟨.path "a", 1⟩, ⟨.relation .eq, 3⟩, ⟨.path "b", 6⟩]
    let ts : Tokens := ⟨before ++ [⟨.relation .eq, 8⟩, ⟨.path "c", 11⟩], 12⟩
    tokenize text = .ok ts ∧ ts.tokens ≠ [] ∧
      parse text = .error (.malformed ⟨.unclosed, 8⟩) ∧ SyntaxProblem.unclosed ≠ .tooNested ∧
      (∃ more e, ∀ stop, parseTokens ⟨before ++ more, stop⟩ = .ok e) ∧
      ∀ more stop e, parseTokens ⟨before ++ ⟨.relation .eq, 8⟩ :: more, stop⟩ ≠ .ok e := by
  intro text before ts
  have htext : tokenize text = .ok ts := by decide +kernel
  have hne : ts.tokens ≠ [] := List.cons_ne_nil _ _
  have herror : parse text = .error (.malformed ⟨.unclosed, 8⟩) := by
    rw [parse, htext]
    rfl
  have hproblem : SyntaxProblem.unclosed ≠ .tooNested := by decide
  obtain ⟨read, left, hts, hoffset, hmore, hleft⟩ :=
    parse_error_place text ts .unclosed 8 htext hne herror hproblem
  -- the offset tells which tokens were read
  have hread : read = ts.tokens.take read.length := by rw [hts, List.take_left]
  have hdrop : left = ts.tokens.drop read.length := by rw [hts, List.drop_left]
  have hlength : read.length ≤ 6 := by
    have hsum : 6 = read.length + left.length :=
      (congrArg List.length hts).trans List.length_append
    omega
  generalize read.length = n at hread hdrop hlength
  subst hread hdrop
  obtain rfl : n = 4 := by
    interval_cases n <;> first | rfl | exact absurd hoffset (by decide)
  exact ⟨htext, hne, herror, hproblem, hmore, fun more stop e => (hleft more e).2 stop⟩

end Stencil.Condition
