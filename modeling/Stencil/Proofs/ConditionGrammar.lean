import Stencil.Condition.Parser

/-!
# The grammar of conditions

What a list of tokens spells, told by a grammar and without reference to the parser. The rules are,
from the loosest operator to the tightest:

    disjunction → conjunction ("||" conjunction)*
    conjunction → equality ("&&" equality)*
    equality    → relational (("==" | "!=") relational)?
    relational  → unary (("<" | "<=" | ">" | ">=") unary)?
    unary       → "!" unary | primary
    primary     → string | number | keyword | path | "(" disjunction ")"

`||` and `&&` group to the left, so their rules have the longer part on the left. `Derives` is one
relation with the rule as an index, so that there is one induction over derivations.
-/

namespace Stencil.Condition

/-- The rules of the grammar. -/
inductive Rank where
  | disjunction
  | conjunction
  | equality
  | relational
  | unary
  | primary
deriving Repr, DecidableEq

/-- The constant that a keyword stands for. -/
def Keyword.literal : Keyword → Literal
  | true => .bool Bool.true
  | false => .bool Bool.false
  | null => .null
  | undefined => .undefined

/-- By the rule, the tokens spell the expression. -/
inductive Derives : Rank → List Token → Expr → Prop
  | conjunction {ts : List Token} {e : Expr} :
      Derives .conjunction ts e → Derives .disjunction ts e
  | or {ts us : List Token} {l r : Expr} :
      Derives .disjunction ts l → Derives .conjunction us r →
      Derives .disjunction (ts ++ .or :: us) (.either l r)
  | equality {ts : List Token} {e : Expr} :
      Derives .equality ts e → Derives .conjunction ts e
  | and {ts us : List Token} {l r : Expr} :
      Derives .conjunction ts l → Derives .equality us r →
      Derives .conjunction (ts ++ .and :: us) (.both l r)
  | relational {ts : List Token} {e : Expr} :
      Derives .relational ts e → Derives .equality ts e
  | equate {ts us : List Token} {l r : Expr} (op : Relation) : op.isEquality = true →
      Derives .relational ts l → Derives .relational us r →
      Derives .equality (ts ++ .relation op :: us) (.compare op l r)
  | unary {ts : List Token} {e : Expr} :
      Derives .unary ts e → Derives .relational ts e
  | order {ts us : List Token} {l r : Expr} (op : Relation) : op.isEquality = false →
      Derives .unary ts l → Derives .unary us r →
      Derives .relational (ts ++ .relation op :: us) (.compare op l r)
  | primary {ts : List Token} {e : Expr} :
      Derives .primary ts e → Derives .unary ts e
  | not {ts : List Token} {e : Expr} :
      Derives .unary ts e → Derives .unary (.not :: ts) (.negation e)
  | string (s : String) : Derives .primary [.string s] (.literal (.text s))
  | number (numeral : Numeral) (n : Number) : numeral.toNumber = .ok n →
      Derives .primary [.number numeral] (.literal (.number n))
  | keyword (word : Keyword) : Derives .primary [.keyword word] (.literal word.literal)
  | path (name : String) : Derives .primary [.path name] (.path name)
  | group {ts : List Token} {e : Expr} :
      Derives .disjunction ts e → Derives .primary (.opening :: (ts ++ [.closing])) (.group e)

/-- The token spells the operand that it stands for, and nothing is nested in that. -/
theorem derives_of_operand? (t : Token) (e : Expr) (h : operand? t = some (.ok e)) :
    Derives .primary [t] e ∧ e.nesting = 0 := by
  unfold operand? at h
  split at h
  · cases h
    exact ⟨.string _, rfl⟩
  · next numeral =>
    -- a numeral stands for an operand if it is not too long
    cases hn : numeral.toNumber with
    | error err =>
      rw [hn] at h
      cases h
    | ok n =>
      rw [hn] at h
      cases h
      exact ⟨.number numeral n hn, rfl⟩
  · cases h
    exact ⟨.keyword .true, rfl⟩
  · cases h
    exact ⟨.keyword .false, rfl⟩
  · cases h
    exact ⟨.keyword .null, rfl⟩
  · cases h
    exact ⟨.keyword .undefined, rfl⟩
  · cases h
    exact ⟨.path _, rfl⟩
  · cases h

/-- Nothing is spelled by no tokens. -/
theorem Derives.ne_nil {rank : Rank} {ts : List Token} {e : Expr} (h : Derives rank ts e) :
    ts ≠ [] := by
  induction h <;> simp_all

end Stencil.Condition
