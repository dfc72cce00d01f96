import Mathlib.Tactic.FinCases
import Stencil.Proofs.ConditionParserComplete
import Stencil.Proofs.ReaderReuse

/-!
# The condition parser is correct

The parser reads a condition exactly if the grammar derives it from the tokens and nothing in it is
nested too deeply. Completeness is the content of the module before; here is soundness, by an
invariant of the parser's state.

The tokens that were read at a level are cut into one part for each rule: the part of a rule and any
tokens that the next rule derives make up tokens of the rule (`Completes`). The levels around are
the same with an opening parenthesis after each. Nesting is followed at the same time: `Within`
bounds it by the room that is left at the level.

## Key results

- `read_sound`: what is read after what was read before spells the result.
- `parse_eq_ok_iff_derives`: parsing a text and deriving its tokens are the same.
- `parse_ne_overlong`: a text without numerals of too many digits has no other failure than a syntax
  error.
- `Reader.parse_eq_ok_iff`: a reader accepts exactly the grammar.
-/

namespace Stencil.Condition

/-- By the rule, the tokens spell the expression, and its nesting is within the room. -/
def Within (room : Nat) (rank : Rank) (ts : List Token) (e : Expr) : Prop :=
  Derives rank ts e ∧ e.nesting ≤ room

/-- Before tokens of the rule `inner`, the tokens `ts` make tokens of the rule `outer`. -/
def Completes (room : Nat) (inner outer : Rank) (ts : List Token) (f : Expr → Expr) : Prop :=
  ∀ us e, Within room inner us e → Within room outer (ts ++ us) (f e)

/-! ## What waits at a level -/

theorem completes_or_none (room : Nat) :
    Completes room .conjunction .disjunction [] (Level.joinLogical .either none) :=
  fun _ _ h => ⟨.conjunction h.1, h.2⟩

theorem completes_and_none (room : Nat) :
    Completes room .equality .conjunction [] (Level.joinLogical .both none) :=
  fun _ _ h => ⟨.equality h.1, h.2⟩

theorem completes_equate_none (room : Nat) :
    Completes room .relational .equality [] (Level.joinRelation none) :=
  fun _ _ h => ⟨.relational h.1, h.2⟩

theorem completes_order_none (room : Nat) :
    Completes room .unary .relational [] (Level.joinRelation none) :=
  fun _ _ h => ⟨.unary h.1, h.2⟩

/-- A left operand waits with its operator. The rule of the operator joins it to the right operand,
whose nesting is that of the two sides. -/
theorem completes_concat (room : Nat) (inner outer : Rank) (ts : List Token) (t : Token)
    (l : Expr) (f : Expr → Expr) (hl : l.nesting ≤ room)
    (hnesting : ∀ e, (f e).nesting = max l.nesting e.nesting)
    (hrule : ∀ us e, Derives inner us e → Derives outer (ts ++ t :: us) (f e)) :
    Completes room inner outer (ts ++ [t]) f := by
  intro us e h
  rw [List.append_assoc]
  refine ⟨hrule us e h.1, ?_⟩
  rw [hnesting]
  exact Nat.max_le.2 ⟨hl, h.2⟩

/-- Negations before an operand use up the room for them. -/
theorem within_negate (room n : Nat) (us : List Token) (e : Expr) (hn : n ≤ room)
    (h : Within (room - n) .primary us e) :
    Within room .unary (List.replicate n .not ++ us) (Level.negate n e) := by
  -- each negation leaves room for one less
  induction n generalizing room with
  | zero => exact ⟨.primary h.1, h.2⟩
  | succ n ih =>
    obtain ⟨hd, hnest⟩ := ih (room - 1) (by omega) (by rwa [Nat.sub_sub, Nat.add_comm 1 n])
    refine ⟨.not hd, ?_⟩
    show (Level.negate n e).nesting + 1 ≤ room
    omega

/-- The tokens `ts` were read at the level: those of the left operands that wait, each with its
operator, and the negations. -/
structure Level.HasRead (room : Nat) (level : Level) (ts : List Token) : Prop where
  parts : ∃ a b c d, ts = a ++ (b ++ (c ++ (d ++ List.replicate level.negations .not))) ∧
    Completes room .conjunction .disjunction a (Level.joinLogical .either level.either) ∧
    Completes room .equality .conjunction b (Level.joinLogical .both level.both) ∧
    (Completes room .relational .equality c (Level.joinRelation level.equality) ∧
      (level.equality = none → c = [])) ∧
    (Completes room .unary .relational d (Level.joinRelation level.order) ∧
      (level.order = none → d = []))
  fits : level.negations ≤ room

theorem hasRead_start (room : Nat) : Level.start.HasRead room [] :=
  ⟨⟨[], [], [], [], rfl, completes_or_none room, completes_and_none room,
    ⟨completes_equate_none room, fun _ => rfl⟩, ⟨completes_order_none room, fun _ => rfl⟩⟩,
    Nat.zero_le room⟩

/-- After one more negation, if there is room for it. -/
theorem hasRead_not (room : Nat) (level : Level) (ts : List Token) (h : level.HasRead room ts)
    (hfits : level.negations < room) :
    Level.HasRead room ⟨level.either, level.both, level.equality, level.order,
      level.negations + 1⟩ (ts ++ [.not]) := by
  obtain ⟨⟨a, b, c, d, rfl, hparts⟩, -⟩ := h
  refine ⟨⟨a, b, c, d, ?_, hparts⟩, hfits⟩
  rw [List.replicate_succ']
  simp only [List.append_assoc]

/-- After an operand, the level stands for an expression. -/
theorem within_disjunction (room : Nat) (level : Level) (ts us : List Token) (p : Expr)
    (h : level.HasRead room ts) (hp : Within (room - level.negations) .primary us p) :
    Within room .disjunction (ts ++ us) (level.disjunction p) := by
  obtain ⟨⟨a, b, c, d, rfl, ha, hb, hc, hd⟩, hfits⟩ := h
  simp only [List.append_assoc]
  exact ha _ _ (hb _ _ (hc.1 _ _ (hd.1 _ _ (within_negate room _ us p hfits hp))))

/-- After an operand and an operator, the level has read them, too. -/
theorem hasRead_operator (room : Nat) (level next : Level) (ts us : List Token) (p : Expr)
    (t : Token) (h : level.HasRead room ts)
    (hp : Within (room - level.negations) .primary us p) (hop : level.operator? p t = some next) :
    next.HasRead room (ts ++ us ++ [t]) := by
  obtain ⟨⟨a, b, c, d, rfl, ha, hb, ⟨hc, hcn⟩, ⟨hd, hdn⟩⟩, hfits⟩ := h
  -- what the level stands for at each rule
  have hunary := within_negate room _ us p hfits hp
  have hrelational := hd _ _ hunary
  have hconjunction := hb _ _ (hc _ _ hrelational)
  have hdisjunction := ha _ _ hconjunction
  unfold Level.operator? at hop
  split at hop
  · -- `||` takes all that was read as its left operand
    cases hop
    have hor := completes_concat room .conjunction .disjunction _ .or _
      (Level.joinLogical .either (some (level.disjunction p))) hdisjunction.2 (fun _ => rfl)
      fun _ _ => .or hdisjunction.1
    refine ⟨⟨_, [], [], [], ?_, hor, completes_and_none room,
      ⟨completes_equate_none room, fun _ => rfl⟩,
      ⟨completes_order_none room, fun _ => rfl⟩⟩, Nat.zero_le room⟩
    simp
  · -- `&&` leaves the operand of `||` alone
    cases hop
    have hand := completes_concat room .equality .conjunction _ .and _
      (Level.joinLogical .both (some (level.conjunction p))) hconjunction.2 (fun _ => rfl)
      fun _ _ => .and hconjunction.1
    refine ⟨⟨a, _, [], [], ?_, ha, hand, ⟨completes_equate_none room, fun _ => rfl⟩,
      ⟨completes_order_none room, fun _ => rfl⟩⟩, Nat.zero_le room⟩
    simp
  · next op =>
    split at hop
    · next heq =>
      split at hop
      · next hnone =>
        cases hop
        -- an equality takes what was read since the last `||` or `&&`
        obtain rfl := hcn (Option.isNone_iff_eq_none.1 hnone)
        have hequate := completes_concat room .relational .equality _ (.relation op) _
          (Level.joinRelation (some (op, level.relational p))) hrelational.2 (fun _ => rfl)
          fun _ _ => .equate op heq hrelational.1
        refine ⟨⟨a, b, _, [], ?_, ha, hb, ⟨hequate, fun h => by cases h⟩,
          ⟨completes_order_none room, fun _ => rfl⟩⟩, Nat.zero_le room⟩
        simp
      · cases hop
    · next heq =>
      split at hop
      · next hnone =>
        cases hop
        -- an order operator takes the last operand only
        obtain rfl := hdn (Option.isNone_iff_eq_none.1 hnone)
        have horder := completes_concat room .unary .relational _ (.relation op) _
          (Level.joinRelation (some (op, level.unary p))) hunary.2 (fun _ => rfl)
          fun _ _ => .order op (by simpa using heq) hunary.1
        refine ⟨⟨a, b, c, _, ?_, ha, hb, ⟨hc, hcn⟩, ⟨horder, fun h => by cases h⟩⟩,
          Nat.zero_le room⟩
        simp
      · cases hop
  · cases hop

/-! ## The levels around -/

/-- The tokens `ts` were read before the innermost level: those of the levels around it, with an
opening parenthesis after each. -/
inductive HasReadAround (limit : Nat) : List Level → List Token → Prop
  | nil : HasReadAround limit [] []
  | cons {level : Level} {around : List Level} {ts us : List Token} :
      HasReadAround limit around ts → level.HasRead (limit - used around) us →
      level.negations + used around < limit →
      HasReadAround limit (level :: around) (ts ++ us ++ [.opening])

/-- The tokens `ts` were read. -/
def Open.HasRead (limit : Nat) (o : Open) (ts : List Token) : Prop :=
  ∃ us vs, ts = us ++ vs ∧ HasReadAround limit o.around us ∧
    o.level.HasRead (limit - used o.around) vs

/-- A negation that there is room for. -/
theorem open_hasRead_not (limit : Nat) (o : Open) (ts : List Token) (h : o.HasRead limit ts)
    (hroom : o.depth < limit) : o.negate.HasRead limit (ts ++ [.not]) := by
  obtain ⟨us, vs, rfl, haround, hlevel⟩ := h
  have hdepth : o.depth = o.level.negations + used o.around := rfl
  have hfits : o.level.negations < limit - used o.around := by omega
  refine ⟨us, vs ++ [Token.not], List.append_assoc _ _ _, haround, ?_⟩
  exact hasRead_not _ o.level vs hlevel hfits

/-- A parenthesis that there is room for. -/
theorem open_hasRead_opening (limit : Nat) (o : Open) (ts : List Token) (h : o.HasRead limit ts)
    (hroom : o.depth < limit) : o.enter.HasRead limit (ts ++ [.opening]) := by
  obtain ⟨us, vs, rfl, haround, hlevel⟩ := h
  have hdepth : o.depth = o.level.negations + used o.around := rfl
  refine ⟨us ++ vs ++ [.opening], [], (List.append_nil _).symm, ?_, hasRead_start _⟩
  exact .cons haround hlevel (by omega)

/-- The room for an operand. -/
def Open.room (limit : Nat) (o : Open) : Nat := limit - used o.around - o.level.negations

/-- What is read after what was read before spells the result, whether an operand has to come or
has come. -/
theorem read_sound (limit stop : Nat) (ls : List Located) :
    (∀ o pre e, Open.HasRead limit o pre → readOperand limit stop o ls = .ok e →
      Within limit .disjunction (pre ++ ls.map (·.token)) e) ∧
    (∀ o pre us p e, Open.HasRead limit o pre → Within (o.room limit) .primary us p →
      readOperator limit stop o p ls = .ok e →
      Within limit .disjunction (pre ++ us ++ ls.map (·.token)) e) := by
  -- on the tokens to come, with what was read before as the invariant
  induction ls with
  | nil =>
    constructor
    · intro o pre e _ h
      cases h
    · intro o pre us p e hpre hp h
      -- the text may end after an operand, outside all parentheses
      obtain ⟨⟨level, around⟩, ts, vs, rfl, haround, hlevel⟩ := o, hpre
      rw [readOperator] at h
      split at h
      · next ho =>
        cases h
        cases ho
        cases haround
        simpa [used] using within_disjunction _ level vs us p hlevel hp
      · cases h
  | cons t ls ih =>
    obtain ⟨ihoperand, ihoperator⟩ := ih
    constructor
    · intro o pre e hpre h
      rw [List.map_cons, ← List.singleton_append, ← List.append_assoc]
      rw [readOperand] at h
      split at h
      · next ht =>
        split at h
        · next hroom => exact ht ▸ ihoperand _ _ e (open_hasRead_not limit o pre hpre hroom) h
        · cases h
      · next ht =>
        split at h
        · next hroom => exact ht ▸ ihoperand _ _ e (open_hasRead_opening limit o pre hpre hroom) h
        · cases h
      · split at h
        · next operand hop =>
          -- a token that is an operand has no nesting of its own
          obtain ⟨hd, hnest⟩ := derives_of_operand? _ _ hop
          exact ihoperator o pre _ operand e hpre ⟨hd, by omega⟩ h
        · cases h
        · cases h
    · intro o pre us p e hpre hp h
      obtain ⟨⟨level, around⟩, ts, vs, rfl, haround, hlevel⟩ := o, hpre
      rw [List.map_cons, ← List.singleton_append (l := ls.map _), ← List.append_assoc]
      rw [readOperator] at h
      split at h
      · next next hop =>
        -- an operator: the operand is read, and another has to come
        refine ihoperand ⟨next, around⟩ _ e ⟨ts, vs ++ us ++ [t.token], ?_, haround, ?_⟩ h
        · simp only [List.append_assoc]
        · exact hasRead_operator _ level next vs us p _ hlevel hp hop
      · split at h
        · cases h
        · next outer around' ho =>
          split at h
          · next ht =>
            -- a closing parenthesis: the whole level is an operand of the one around it
            cases ho
            cases haround with
            | cons haround houter hroom =>
              have hwithin := within_disjunction _ level vs us p hlevel hp
              rw [used] at hwithin
              have hgroup : Within (Open.room limit ⟨outer, around'⟩) .primary
                  (.opening :: (vs ++ us ++ [.closing])) (.group (level.disjunction p)) := by
                refine ⟨.group hwithin.1, ?_⟩
                have hnest := hwithin.2
                show (level.disjunction p).nesting + 1 ≤ limit - used around' - outer.negations
                omega
              have hrest := ihoperator ⟨outer, around'⟩ _ _ _ e
                ⟨_, _, rfl, haround, houter⟩ hgroup h
              rw [ht]
              simpa only [List.append_assoc, List.cons_append, List.nil_append] using hrest
          · cases h

/-- A list of tokens is parsed exactly if the grammar derives it and there is room for its
nesting. -/
theorem parseTokens_eq_ok_iff (ts : Tokens) (e : Expr) :
    parseTokens ts = .ok e ↔
      Derives .disjunction (ts.tokens.map (·.token)) e ∧ e.nesting ≤ nestingLimit := by
  unfold parseTokens
  constructor
  · intro h
    split at h
    · cases h
    · -- before the first token nothing was read
      have hstart : Open.HasRead nestingLimit .start [] :=
        ⟨[], [], rfl, .nil, hasRead_start _⟩
      exact (read_sound nestingLimit ts.stop ts.tokens).1 .start [] e hstart h
  · rintro ⟨hd, hnest⟩
    -- the empty condition has an error of its own
    have hne : ts.tokens ≠ [] := fun hnil => hd.ne_nil (by rw [hnil, List.map_nil])
    rw [if_neg (by rwa [List.isEmpty_iff])]
    exact readOperand_complete nestingLimit ts.stop ts.tokens e hd hnest

/-- Parsing a text is deriving its tokens. -/
theorem parse_eq_ok_iff_derives (text : String) (e : Expr) :
    parse text = .ok e ↔ ∃ ts, tokenize text = .ok ts ∧
      Derives .disjunction (ts.tokens.map (·.token)) e ∧ e.nesting ≤ nestingLimit := by
  unfold parse
  cases tokenize text with
  | ok ts =>
    show parseTokens ts = .ok e ↔ _
    rw [parseTokens_eq_ok_iff]
    constructor
    · exact fun h => ⟨ts, rfl, h⟩
    · rintro ⟨us, hus, h⟩
      cases hus
      exact h
  | error stray =>
    constructor
    · exact fun h => by cases h
    · rintro ⟨us, hus, -⟩
      cases hus

/-! ## How parsing fails -/

/-- The token is no integer of too many digits. -/
def Token.IsShort (t : Token) : Prop :=
  ∀ numeral, t = .number numeral → numeral.fraction = none → numeral.whole.length ≤ digitLimit

theorem operand?_ne_error (t : Token) (h : t.IsShort) (err : Overlong) :
    operand? t ≠ some (.error err) := by
  intro herr
  unfold operand? at herr
  split at herr
  · cases herr
  · next numeral =>
    -- a numeral is refused for the count of its digits only
    have hn : numeral.toNumber = .error err := by
      cases hn : numeral.toNumber with
      | error _ => rfl
      | ok n =>
        rw [hn] at herr
        cases herr
    unfold Numeral.toNumber at hn
    split at hn
    · cases hn
    · next hf => exact absurd hn (by rw [if_pos (h numeral rfl hf)]; exact fun hn => by cases hn)
  all_goals cases herr

/-- Without integers of too many digits, the parser fails by syntax errors only. -/
theorem read_ne_overlong (limit stop : Nat) (ls : List Located)
    (hls : ∀ t ∈ ls, t.token.IsShort) :
    (∀ o, readOperand limit stop o ls ≠ .error .overlong) ∧
      ∀ o p, readOperator limit stop o p ls ≠ .error .overlong := by
  -- the failure comes from an operand only, and every other step fails otherwise or goes on
  induction ls with
  | nil =>
    constructor
    · intro o h
      cases h
    · intro o p h
      rw [readOperator] at h
      split at h <;> cases h
  | cons t ls ih =>
    obtain ⟨ihoperand, ihoperator⟩ := ih fun u hu => hls u (List.mem_cons_of_mem t hu)
    constructor
    · intro o h
      rw [readOperand] at h
      split at h
      · split at h
        · exact ihoperand _ h
        · cases h
      · split at h
        · exact ihoperand _ h
        · cases h
      · split at h
        · exact ihoperator _ _ h
        · next herr => exact operand?_ne_error _ (hls t List.mem_cons_self) _ herr
        · cases h
    · intro o p h
      rw [readOperator] at h
      split at h
      · exact ihoperand _ h
      · split at h
        · cases h
        · split at h
          · exact ihoperator _ _ h
          · cases h

/-- A text without integers of too many digits is parsed, or has a syntax error. -/
theorem parse_ne_overlong (text : String)
    (h : ∀ ts, tokenize text = .ok ts → ∀ t ∈ ts.tokens, t.token.IsShort) :
    parse text ≠ .error .overlong := by
  unfold parse
  cases htext : tokenize text with
  | ok ts =>
    show parseTokens ts ≠ _
    unfold parseTokens
    split
    · exact fun hp => by cases hp
    · exact (read_ne_overlong _ _ ts.tokens (h ts htext)).1 _
  | error stray => exact fun hp => by cases hp

namespace Reader

/-- **The condition parser accepts exactly its grammar**, whatever the reader was left with by the
texts before. A text without integers of too many digits is read as an expression if its tokens
spell it and nothing in it stands under more than 64 negations and parentheses, and otherwise has a
syntax error; whatever the tokens, they spell at most one expression. The words `and`, `or` and
`not` are the tokens of `&&`, `||` and `!`, and the strict forms of equality those of the plain
ones. -/
theorem parse_eq_ok_iff (r : Reader) (text : String)
    (h : ∀ ts, tokenize text = .ok ts → ∀ t ∈ ts.tokens, t.token.IsShort) :
    (∀ e, r.parse text = .ok e ↔ ∃ ts, tokenize text = .ok ts ∧
      Derives .disjunction (ts.tokens.map (·.token)) e ∧ e.nesting ≤ 64) ∧
    ((¬ ∃ e, r.parse text = .ok e) → ∃ error, r.parse text = .error (.malformed error)) ∧
    (∀ ts e e', Derives .disjunction ts e → Derives .disjunction ts e' → e = e') ∧
    (tokenOfName "and" = .and ∧ tokenOfName "or" = .or ∧ tokenOfName "not" = .not) ∧
    ∀ s, readSymbol? ('=' :: '=' :: '=' :: s) = some ⟨.relation .eq, 3, s⟩ ∧
      readSymbol? ('!' :: '=' :: '=' :: s) = some ⟨.relation .ne, 3, s⟩ := by
  rw [r.parse_eq]
  refine ⟨parse_eq_ok_iff_derives text, ?_, fun ts e e' => Derives.unique, ?_, ?_⟩
  · intro hne
    cases hparse : Condition.parse text with
    | ok e => exact absurd ⟨e, hparse⟩ hne
    | error failure =>
      cases failure with
      | malformed error => exact ⟨error, rfl⟩
      | overlong => exact absurd hparse (parse_ne_overlong text h)
  · exact ⟨rfl, rfl, rfl⟩
  · exact fun s => ⟨rfl, rfl⟩

/-- A negation, a word for an operator, a numeral and a strict equality, read after a text that
breaks off inside two parentheses. -/
theorem parse_not_a_and_one_eq_b :
    let r := fresh.after "a && !((b"
    r.depth = 2 ∧ r.position = 6 ∧
    (∀ ts, tokenize "!a and 1 === b" = .ok ts → ∀ t ∈ ts.tokens, t.token.IsShort) ∧
    r.parse "!a and 1 === b" = .ok (.both (.negation (.path "a"))
      (.compare .eq (.literal (.number (.whole 1))) (.path "b"))) := by
  have hdepth : (fresh.after "a && !((b").depth = 2 := by decide +kernel
  have hposition : (fresh.after "a && !((b").position = 6 := by decide +kernel
  have htext : tokenize "!a and 1 === b" = .ok ⟨[⟨.not, 0⟩, ⟨.path "a", 1⟩, ⟨.and, 3⟩,
      ⟨.number ⟨false, ['1'], none⟩, 7⟩, ⟨.relation .eq, 9⟩, ⟨.path "b", 13⟩], 14⟩ := by
    decide +kernel
  have hshort : ∀ ts, tokenize "!a and 1 === b" = .ok ts →
      ∀ t ∈ ts.tokens, t.token.IsShort := by
    intro ts hts t ht numeral hn _
    rw [htext] at hts
    cases hts
    -- the only numeral has one digit
    have hone : numeral = ⟨false, ['1'], none⟩ := by
      fin_cases ht
      all_goals cases hn
      rfl
    rw [hone]
    decide
  refine ⟨hdepth, hposition, hshort,
    ((parse_eq_ok_iff _ _ hshort).1 _).2 ⟨_, htext, ?_, by decide⟩⟩
  have hleft : Derives .equality [.not, .path "a"] (.negation (.path "a")) :=
    .relational (.unary (.not (.primary (.path "a"))))
  have hright : Derives .equality [.number ⟨false, ['1'], none⟩, .relation .eq, .path "b"]
      (.compare .eq (.literal (.number (.whole 1))) (.path "b")) :=
    .equate .eq rfl (.unary (.primary (.number _ _ rfl))) (.unary (.primary (.path "b")))
  exact .conjunction (.and (.equality hleft) hright)

end Reader

end Stencil.Condition
