import Stencil.Proofs.ConditionGrammar

/-!
# The condition parser is complete

What the grammar derives, the parser reads, if there is room for its nesting. The parser keeps the
unfinished operands of all rules in one `Level`, so reading the tokens of a rule takes it from a
level in which the operators of that rule wait for nothing to one whose unfinished expression at
that rule is what was derived. `Starts` and `Ends` say this rule by rule; `Reads` is the run between
the two, whatever follows.

## Key results

- `reads_of_derives`: the tokens of a derivation are read, by induction on the derivation.
- `readOperand_complete`: a derivable list of tokens is parsed.
- `Derives.unique`: a list of tokens spells at most one expression.
-/

namespace Stencil.Condition

/-- A level at which the tokens of a rule may begin. -/
def Starts : Rank → Level → Prop
  | .disjunction, level => level = .start
  | .conjunction, level =>
    level.both = none ∧ level.equality = none ∧ level.order = none ∧ level.negations = 0
  | .equality, level => level.equality = none ∧ level.order = none ∧ level.negations = 0
  | .relational, level => level.order = none ∧ level.negations = 0
  | .unary, _ => True
  | .primary, _ => True

/-- The level and the operand after the tokens of a rule, which spell `e`, were read from `level`
on. -/
def Ends : Rank → Level → Expr → Level → Expr → Prop
  | .disjunction, _, e, after, operand => after.disjunction operand = e
  | .conjunction, level, e, after, operand =>
    after.either = level.either ∧ after.conjunction operand = e
  | .equality, level, e, after, operand =>
    after.either = level.either ∧ after.both = level.both ∧ after.comparison operand = e
  | .relational, level, e, after, operand =>
    after.either = level.either ∧ after.both = level.both ∧ after.equality = level.equality ∧
      after.relational operand = e
  | .unary, level, e, after, operand =>
    ∃ n, after = ⟨level.either, level.both, level.equality, level.order, level.negations + n⟩ ∧
      e = Level.negate n operand
  | .primary, level, e, after, operand => after = level ∧ operand = e

/-- Reading the tokens leads from one level, where an operand has to come, to another, where one has
come, whatever follows. -/
def Reads (limit : Nat) (around : List Level) (level : Level) (ts : List Token) (after : Level)
    (operand : Expr) : Prop :=
  ∀ stop ls, ls.map Located.token = ts → ∀ rest,
    readOperand limit stop ⟨level, around⟩ (ls ++ rest) =
      readOperator limit stop ⟨after, around⟩ operand rest

/-! ## Single tokens -/

/-- A token that spells an operand by itself. -/
theorem reads_operand (limit : Nat) (around : List Level) (level : Level) (t : Token) (e : Expr)
    (h : operand? t = some (.ok e)) : Reads limit around level [t] level e := by
  intro stop ls hls rest
  obtain ⟨l, rfl, rfl⟩ := List.map_eq_singleton_iff.1 hls
  rw [List.singleton_append, readOperand]
  -- `!` and `(` are no operands
  split
  · next ht => rw [ht] at h; cases h
  · next ht => rw [ht] at h; cases h
  · rw [h]

/-- A negation, if there is room for it. -/
theorem reads_not (limit : Nat) (around : List Level) (level after : Level) (ts : List Token)
    (operand : Expr) (hroom : level.negations + used around < limit)
    (h : Reads limit around ⟨level.either, level.both, level.equality, level.order,
      level.negations + 1⟩ ts after operand) :
    Reads limit around level (.not :: ts) after operand := by
  intro stop ls hls rest
  obtain ⟨l, ls, rfl, hl, hls⟩ := List.map_eq_cons_iff.1 hls
  rw [List.cons_append, readOperand, hl]
  dsimp only
  rw [if_pos (show Open.depth ⟨level, around⟩ < limit from hroom)]
  exact h stop ls hls rest

/-- Parentheses, if there is room for them. -/
theorem reads_group (limit : Nat) (around : List Level) (level after : Level) (ts : List Token)
    (operand : Expr) (hroom : level.negations + used around < limit)
    (h : Reads limit (level :: around) .start ts after operand) :
    Reads limit around level (.opening :: (ts ++ [.closing])) level
      (.group (after.disjunction operand)) := by
  intro stop ls hls rest
  obtain ⟨l, ls, rfl, hl, hls⟩ := List.map_eq_cons_iff.1 hls
  obtain ⟨inner, last, rfl, hinner, hlast⟩ := List.map_eq_append_iff.1 hls
  obtain ⟨c, rfl, hc⟩ := List.map_eq_singleton_iff.1 hlast
  rw [List.cons_append, readOperand, hl]
  dsimp only
  rw [if_pos (show Open.depth ⟨level, around⟩ < limit from hroom), List.append_assoc]
  -- the parenthesis at the end is no operator, and closes the level
  refine (h stop inner hinner _).trans ?_
  rw [List.singleton_append, readOperator, hc]
  rfl

/-- A binary operator between two runs. -/
theorem reads_operator (limit : Nat) (around : List Level) (level mid after : Level)
    (ts us : List Token) (t : Token) (left : Expr) (operand : Expr) (next : Level)
    (hleft : Reads limit around level ts mid left) (hop : mid.operator? left t = some next)
    (hright : Reads limit around next us after operand) :
    Reads limit around level (ts ++ t :: us) after operand := by
  intro stop ls hls rest
  obtain ⟨before, behind, rfl, hbefore, hbehind⟩ := List.map_eq_append_iff.1 hls
  obtain ⟨l, ms, rfl, hl, hms⟩ := List.map_eq_cons_iff.1 hbehind
  -- the left run ends before the operator, and the right one goes on behind it
  rw [List.append_assoc, hleft stop before hbefore, List.cons_append, readOperator, hl, hop]
  exact hright stop ms hms rest

/-! ## Derivations -/

/-- The tokens of a derivation are read, if there is room for its nesting. -/
theorem reads_of_derives (limit : Nat) {rank : Rank} {ts : List Token} {e : Expr}
    (h : Derives rank ts e) (around : List Level) (level : Level) (hstart : Starts rank level)
    (hroom : level.negations + used around + e.nesting ≤ limit) :
    ∃ after operand, Ends rank level e after operand ∧
      Reads limit around level ts after operand := by
  -- on the derivation; a rule of a tighter operator starts at the same level, or at the one behind
  -- the operator
  induction h generalizing around level with
  | conjunction _ ih =>
    cases hstart
    obtain ⟨after, p, ⟨heither, hp⟩, hreads⟩ := ih around .start ⟨rfl, rfl, rfl, rfl⟩ hroom
    refine ⟨after, p, ?_, hreads⟩
    show Level.joinLogical .either after.either (after.conjunction p) = _
    rw [heither, hp]
    rfl
  | or _ _ ihl ihr =>
    cases hstart
    simp only [Expr.nesting] at hroom
    obtain ⟨mid, p, hp, hl⟩ := ihl around .start rfl (by omega)
    obtain ⟨after, q, ⟨heither, hq⟩, hr⟩ := ihr around
      ⟨some (mid.disjunction p), none, none, none, 0⟩ ⟨rfl, rfl, rfl, rfl⟩
      (by simp only [Level.start] at hroom ⊢; omega)
    refine ⟨after, q, ?_, reads_operator _ _ _ _ _ _ _ _ _ _ _ hl rfl hr⟩
    -- the left operand waits until the end of the right one
    show Level.joinLogical .either after.either (after.conjunction q) = _
    rw [heither, hq, hp]
    rfl
  | equality _ ih =>
    obtain ⟨hboth, hrest⟩ := hstart
    obtain ⟨after, p, ⟨heither, hb, hp⟩, hreads⟩ := ih around level hrest hroom
    refine ⟨after, p, ⟨heither, ?_⟩, hreads⟩
    rw [Level.conjunction, hb, hboth, hp]
    rfl
  | and _ _ ihl ihr =>
    have hzero := hstart.2.2.2
    simp only [Expr.nesting] at hroom
    obtain ⟨mid, p, ⟨he, hp⟩, hl⟩ := ihl around level hstart (by omega)
    obtain ⟨after, q, ⟨heither, hb, hq⟩, hr⟩ := ihr around
      ⟨mid.either, some (mid.conjunction p), none, none, 0⟩ ⟨rfl, rfl, rfl⟩ (by dsimp only; omega)
    refine ⟨after, q, ⟨heither.trans he, ?_⟩, reads_operator _ _ _ _ _ _ _ _ _ _ _ hl rfl hr⟩
    rw [Level.conjunction, hb, hq, hp]
    rfl
  | relational _ ih =>
    obtain ⟨hequality, hrest⟩ := hstart
    obtain ⟨after, p, ⟨heither, hb, heq, hp⟩, hreads⟩ := ih around level hrest hroom
    refine ⟨after, p, ⟨heither, hb, ?_⟩, hreads⟩
    rw [Level.comparison, heq, hequality, hp]
    rfl
  | equate op hop _ _ ihl ihr =>
    have hzero := hstart.2.2
    simp only [Expr.nesting] at hroom
    -- no equality waits at `mid`, so this one may stand there
    obtain ⟨mid, p, ⟨he, hb, heq, hp⟩, hl⟩ := ihl around level hstart.2 (by omega)
    obtain ⟨after, q, ⟨heither, hboth, hequality, hq⟩, hr⟩ := ihr around
      ⟨mid.either, mid.both, some (op, mid.relational p), none, 0⟩ ⟨rfl, rfl⟩ (by dsimp only; omega)
    have hnext : mid.operator? p (.relation op) =
        some ⟨mid.either, mid.both, some (op, mid.relational p), none, 0⟩ := by
      rw [Level.operator?, if_pos hop, heq, hstart.1]
      rfl
    refine ⟨after, q, ⟨heither.trans he, hboth.trans hb, ?_⟩,
      reads_operator _ _ _ _ _ _ _ _ _ _ _ hl hnext hr⟩
    rw [Level.comparison, hequality, hq, hp]
    rfl
  | unary _ ih =>
    obtain ⟨horder, hzero⟩ := hstart
    obtain ⟨after, p, ⟨n, rfl, rfl⟩, hreads⟩ := ih around level trivial hroom
    refine ⟨_, p, ?_, hreads⟩
    refine ⟨rfl, rfl, rfl, ?_⟩
    rw [Level.relational, Level.unary, horder, hzero, Nat.zero_add]
    rfl
  | order op hop _ _ ihl ihr =>
    obtain ⟨horder, hzero⟩ := hstart
    simp only [Expr.nesting] at hroom
    obtain ⟨mid, p, ⟨n, rfl, rfl⟩, hl⟩ := ihl around level trivial (by omega)
    -- `mid` is `level` with more negations
    have hnext : Level.operator? ⟨level.either, level.both, level.equality, level.order,
        level.negations + n⟩ p (.relation op) =
        some ⟨level.either, level.both, level.equality, some (op, Level.negate n p), 0⟩ := by
      rw [Level.operator?, if_neg (by simp [hop]), horder, hzero, Nat.zero_add]
      rfl
    obtain ⟨after, q, ⟨m, rfl, rfl⟩, hr⟩ := ihr around
      ⟨level.either, level.both, level.equality, some (op, Level.negate n p), 0⟩ trivial
      (by dsimp only; omega)
    refine ⟨_, q, ?_, reads_operator _ _ _ _ _ _ _ _ _ _ _ hl hnext hr⟩
    refine ⟨rfl, rfl, rfl, ?_⟩
    rw [Level.relational, Level.unary, Nat.zero_add]
    rfl
  | primary _ ih =>
    obtain ⟨after, p, ⟨rfl, rfl⟩, hreads⟩ := ih around level trivial hroom
    exact ⟨after, p, ⟨0, rfl, rfl⟩, hreads⟩
  | not _ ih =>
    simp only [Expr.nesting] at hroom
    obtain ⟨after, p, ⟨n, rfl, rfl⟩, hreads⟩ := ih around
      ⟨level.either, level.both, level.equality, level.order, level.negations + 1⟩ trivial
      (by dsimp only; omega)
    -- the level counts the negations of the operand and this one
    refine ⟨_, p, ?_, reads_not _ _ _ _ _ _ (by omega) hreads⟩
    refine ⟨n + 1, ?_, rfl⟩
    rw [Nat.add_assoc, Nat.add_comm 1 n]
  | string s => exact ⟨level, _, ⟨rfl, rfl⟩, reads_operand _ _ _ _ _ rfl⟩
  | number numeral n hn =>
    refine ⟨level, _, ⟨rfl, rfl⟩, reads_operand _ _ _ _ _ ?_⟩
    rw [operand?, hn]
    rfl
  | keyword word =>
    refine ⟨level, _, ⟨rfl, rfl⟩, reads_operand _ _ _ _ _ ?_⟩
    cases word <;> rfl
  | path name => exact ⟨level, _, ⟨rfl, rfl⟩, reads_operand _ _ _ _ _ rfl⟩
  | group _ ih =>
    simp only [Expr.nesting] at hroom
    -- what stands in the parentheses is read at a level of its own
    obtain ⟨after, p, hp, hreads⟩ := ih (level :: around) .start rfl
      (by rw [used]; simp only [Level.start]; omega)
    refine ⟨level, _, ⟨rfl, ?_⟩, reads_group _ _ _ _ _ _ (by omega) hreads⟩
    exact congrArg Expr.group hp

/-- A derivable list of tokens is parsed, if there is room for its nesting. -/
theorem readOperand_complete (limit stop : Nat) (ls : List Located) (e : Expr)
    (h : Derives .disjunction (ls.map (·.token)) e) (hroom : e.nesting ≤ limit) :
    readOperand limit stop .start ls = .ok e := by
  obtain ⟨after, p, hp, hreads⟩ := reads_of_derives limit h [] .start rfl
    (by simp only [Level.start, used]; omega)
  -- nothing follows
  have hrun := hreads stop ls rfl []
  rw [List.append_nil, readOperator] at hrun
  exact hrun.trans (congrArg Except.ok hp)

/-- A list of tokens spells at most one expression: with room for both, the parser would read
both. -/
theorem Derives.unique {ts : List Token} {e e' : Expr} (h : Derives .disjunction ts e)
    (h' : Derives .disjunction ts e') : e = e' := by
  have hmap : (ts.map fun t => (⟨t, 0⟩ : Located)).map (·.token) = ts := by
    rw [List.map_map]
    exact List.map_id ts
  rw [← hmap] at h h'
  have hrun := readOperand_complete (max e.nesting e'.nesting) 0 _ e h (Nat.le_max_left _ _)
  rw [readOperand_complete (max e.nesting e'.nesting) 0 _ e' h' (Nat.le_max_right _ _)] at hrun
  exact (Except.ok.inj hrun).symm

end Stencil.Condition
