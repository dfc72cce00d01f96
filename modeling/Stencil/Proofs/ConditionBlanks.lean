import Stencil.Proofs.LexemeSeam
import Stencil.Proofs.ReaderReuse
import Stencil.Proofs.RenderOutcome

/-!
# Blanks around a condition

Blanks before and behind a condition do not change what it says: the same tokens are read, at other
offsets, and so the same expression, or the same problem at another offset. Behind a text, a blank
ends every lexeme that could go on, and does not close a string that is open.

## Key results

- `lexeme?_append_blanks`: blanks behind a text do not change its first lexeme.
- `spelled_tokenize_trim`: nor do blanks around a text change its tokens.
- `gist_parse`: the expression that is read depends on the tokens only.
- `judgeIn_trim`: a condition may be trimmed.
-/

namespace Stencil

open Stencil.Text

/-! ## Blanks behind a lexeme -/

namespace Condition

/-- No string ends in blanks. -/
theorem readQuoted?_blanks (ws : List Char) (quote : Char) (hquote : isBlank quote = false)
    (hws : IsBlanks ws) : readQuoted? quote ws = none := by
  induction ws with
  | nil => rfl
  | cons w ws ih =>
    have hw := hws w List.mem_cons_self
    have hne : ¬ w = quote := by
      rintro rfl
      exact absurd hw (by rw [hquote]; decide)
    have hback : ¬ w = '\\' := by
      rintro rfl
      exact absurd hw (by decide)
    have hrest : IsBlanks ws := fun c hc => hws c (List.mem_cons_of_mem w hc)
    rw [readQuoted?_cons, if_neg hne, if_neg hback, ih hrest]
    rfl

section Lexemes

variable (ws : List Char) (hws : IsBlanks ws)

include hws

theorem readQuoted?_append_blanks (quote : Char) (hquote : isBlank quote = false)
    (s : List Char) : readQuoted? quote (s ++ ws) =
      (readQuoted? quote s).map fun (body, rest) => (body, rest ++ ws) := by
  fun_induction readQuoted? quote s with
  | case1 => exact readQuoted?_blanks ws quote hquote hws
  | case2 s =>
    rw [List.cons_append, readQuoted?_cons, if_pos rfl]
    rfl
  | case3 hne =>
    -- the backslash takes a blank with it
    rw [List.cons_append, readQuoted?_cons, if_neg hne, if_pos rfl]
    cases ws with
    | nil => rfl
    | cons w ws =>
      dsimp only [List.nil_append]
      rw [readQuoted?_blanks ws quote hquote fun c hc => hws c (List.mem_cons_of_mem w hc)]
      rfl
  | case4 d s hne ih =>
    rw [List.cons_append, List.cons_append, readQuoted?_cons, if_neg hne, if_pos rfl]
    dsimp only
    rw [ih, Option.map_map, Option.map_map]
    rfl
  | case5 c s hne hback ih =>
    rw [List.cons_append, readQuoted?_cons, if_neg hne, if_neg hback, ih, Option.map_map,
      Option.map_map]
    rfl

theorem readString?_append_blanks (quote : Char) (hquote : isBlank quote = false)
    (s : List Char) : readString? quote (s ++ ws) =
      (readString? quote s).map (Lexeme.before ws) := by
  unfold readString?
  rw [readQuoted?_append_blanks ws hws quote hquote, Option.map_map, Option.map_map]
  rfl

/-- Blanks behind a text do not change its first lexeme. -/
theorem lexeme?_append_blanks (c : Char) (s : List Char) :
    lexeme? c (s ++ ws) = (lexeme? c s).map (Lexeme.before ws) := by
  unfold lexeme?
  split
  · next hquote =>
    -- no quote is a blank
    have hc : isBlank c = false := by
      rcases Bool.or_eq_true_iff.1 hquote with h | h
      · rw [of_decide_eq_true h]
        rfl
      · rw [of_decide_eq_true h]
        rfl
    exact readString?_append_blanks ws hws c hc s
  · have hends := endsLexemes_of_isBlanks ws hws
    rw [← List.cons_append, readNumber?_seam ws hends, readSymbol?_seam ws hends,
      readName?_seam ws hends, ← Option.map_or, ← Option.map_or]

end Lexemes

/-! ## Blanks around the tokens -/

/-- The tokens that are read, or the character that begins none, without their offsets. -/
def spelled : Except StrayCharacter Tokens → Except Char (List Token)
  | .ok ts => .ok (ts.tokens.map (·.token))
  | .error stray => .error stray.character

/-- Where no blank stands, a lexeme is read and the rest is scanned behind it. -/
theorem scan_cons (offset : Nat) (c : Char) (s : List Char) (l : Lexeme)
    (hc : ¬ isBlank c = true) (h : lexeme? c s = some l) :
    scan offset (c :: s) = (scan (offset + l.width) l.rest).map fun ts =>
      ⟨⟨l.token, offset⟩ :: ts.tokens, ts.stop⟩ := by
  rw [scan, if_neg hc]
  split
  · next hn => cases h.symm.trans hn
  · next l' hl =>
    cases h.symm.trans hl
    cases scan (offset + l.width) l.rest <;> rfl

/-- Where neither a blank nor a lexeme stands, the scan ends. -/
theorem scan_stray (offset : Nat) (c : Char) (s : List Char) (hc : ¬ isBlank c = true)
    (h : lexeme? c s = none) : scan offset (c :: s) = .error ⟨c, offset⟩ := by
  rw [scan, if_neg hc]
  split
  · rfl
  · next l hl => cases h.symm.trans hl

theorem spelled_scan_cons (offset : Nat) (c : Char) (s : List Char) (l : Lexeme)
    (hc : ¬ isBlank c = true) (h : lexeme? c s = some l) :
    spelled (scan offset (c :: s)) =
      (spelled (scan (offset + l.width) l.rest)).map (l.token :: ·) := by
  rw [scan_cons offset c s l hc h]
  cases scan (offset + l.width) l.rest <;> rfl

theorem spelled_scan_stray (offset : Nat) (c : Char) (s : List Char)
    (hc : ¬ isBlank c = true) (h : lexeme? c s = none) :
    spelled (scan offset (c :: s)) = .error c := by
  rw [scan_stray offset c s hc h]
  rfl

/-- Blanks before a text are passed over. -/
theorem scan_blanks_append (ws s : List Char) (hws : IsBlanks ws) (offset : Nat) :
    scan offset (ws ++ s) = scan (offset + ws.length) s := by
  induction ws generalizing offset with
  | nil => rfl
  | cons w ws ih =>
    rw [List.cons_append, scan, if_pos (hws w List.mem_cons_self),
      ih (fun c hc => hws c (List.mem_cons_of_mem w hc)), List.length_cons]
    congr 1
    omega

/-- Blanks behind a text do not change its tokens, and neither does the offset it starts at. -/
theorem spelled_scan_append_blanks (ws s : List Char) (hws : IsBlanks ws) (i j : Nat) :
    spelled (scan i (s ++ ws)) = spelled (scan j s) := by
  -- the induction is on the scan of the text without the blanks
  induction j, s using scan.induct generalizing i with
  | case1 j =>
    have h := scan_blanks_append ws [] hws i
    rw [List.append_nil] at h
    rw [List.nil_append, h, scan, scan]
    rfl
  | case2 j c s hc ih =>
    rw [List.cons_append, scan, if_pos hc, scan, if_pos hc]
    exact ih (i + 1)
  | case3 j c s hc hl =>
    have hl' := lexeme?_append_blanks ws hws c s
    rw [hl] at hl'
    rw [List.cons_append, spelled_scan_stray i c _ hc hl', spelled_scan_stray j c s hc hl]
  | case4 j c s hc l hl _ ts _ ih | case5 j c s hc l hl _ e _ ih =>
    have hl' := lexeme?_append_blanks ws hws c s
    rw [hl] at hl'
    rw [List.cons_append, spelled_scan_cons i c _ _ hc hl', spelled_scan_cons j c s l hc hl]
    exact congrArg (Except.map (l.token :: ·)) (ih (i + l.width))

/-- Trimming a text does not change its tokens. -/
theorem spelled_tokenize_trim (text : String) :
    spelled (tokenize text) = spelled (tokenize (String.ofList (trim text.toList))) := by
  obtain ⟨front, back, hfront, hback, htext⟩ := exists_blanks_trim text.toList
  unfold tokenize
  rw [String.toList_ofList]
  conv => lhs; rw [htext, List.append_assoc, scan_blanks_append front _ hfront]
  exact spelled_scan_append_blanks back _ hback _ _

/-! ## What is read from the tokens -/

/-- The problem of a failure, without its offset. A numeral that is too long is none. -/
def ParseFailure.problem? : ParseFailure → Option SyntaxProblem
  | malformed error => some error.problem
  | overlong => none

/-- The expression that is read, or the problem without its offset. -/
def gist (r : Except ParseFailure Expr) : Except (Option SyntaxProblem) Expr :=
  r.mapError ParseFailure.problem?

/-- What is read from tokens does not depend on their offsets. -/
theorem gist_read (limit stop stop' : Nat) (ts us : List Located)
    (h : ts.map (·.token) = us.map (·.token)) :
    (∀ o, gist (readOperand limit stop o ts) = gist (readOperand limit stop' o us)) ∧
      ∀ o operand, gist (readOperator limit stop o operand ts) =
        gist (readOperator limit stop' o operand us) := by
  induction ts generalizing us with
  | nil =>
    -- the end of the text is told by its problem, not by its offset
    rw [List.map_nil, eq_comm, List.map_eq_nil_iff] at h
    subst h
    refine ⟨fun o => rfl, fun o operand => ?_⟩
    rw [readOperator, readOperator]
    cases o.around <;> rfl
  | cons t ts ih =>
    cases us with
    | nil => cases h
    | cons u us =>
      rw [List.map_cons, List.map_cons, List.cons.injEq] at h
      obtain ⟨ihoperand, ihoperator⟩ := ih us h.2
      refine ⟨fun o => ?_, fun o operand => ?_⟩
      · -- both readings take the same branch, which the token tells
        rw [readOperand, readOperand, h.1]
        split
        · split
          · exact ihoperand o.negate
          · rfl
        · split
          · exact ihoperand o.enter
          · rfl
        · split
          · next operand _ => exact ihoperator o operand
          · rfl
          · rfl
      · rw [readOperator, readOperator, h.1]
        split
        · next level _ => exact ihoperand ⟨level, o.around⟩
        · split
          · rfl
          · next outer around _ =>
            split
            · exact ihoperator ⟨outer, around⟩ _
            · rfl

/-- What is read from a text depends on its tokens only. -/
theorem gist_parse (a b : String) (h : spelled (tokenize a) = spelled (tokenize b)) :
    gist (parse a) = gist (parse b) := by
  unfold parse
  cases ha : tokenize a with
  | error stray =>
    cases hb : tokenize b with
    | ok us =>
      rw [ha, hb] at h
      cases h
    | error stray' =>
      rw [ha, hb] at h
      have hc : stray.character = stray'.character := Except.error.inj h
      show Except.error (some (SyntaxProblem.strayCharacter stray.character)) = _
      rw [hc]
      rfl
  | ok ts =>
    cases hb : tokenize b with
    | error stray =>
      rw [ha, hb] at h
      cases h
    | ok us =>
      rw [ha, hb] at h
      have htokens : ts.tokens.map (·.token) = us.tokens.map (·.token) := Except.ok.inj h
      have hempty : ts.tokens.isEmpty = us.tokens.isEmpty := by
        rw [← List.isEmpty_map (f := (·.token)), htokens, List.isEmpty_map]
      show gist (parseTokens ts) = gist (parseTokens us)
      unfold parseTokens
      rw [hempty]
      split
      · rfl
      · exact (gist_read nestingLimit ts.stop us.stop ts.tokens us.tokens htokens).1 .start

/-! ## What a condition says -/

/-- A condition that fails does not hold, unless a numeral is too long. -/
theorem verdict_error (text : String) (failure : Failure) :
    (verdict text (.error failure)).1 =
      if failure = .overlong then .error .overlong else .ok false := by
  cases failure <;> rfl

/-- Texts with the same tokens hold alike. -/
theorem verdict_evaluate (look : String → Value) (a b : String)
    (h : spelled (tokenize a) = spelled (tokenize b)) :
    (verdict a (evaluate look a)).1 = (verdict b (evaluate look b)).1 := by
  have hgist := gist_parse a b h
  rw [evaluate, evaluate, read_eq, read_eq]
  cases ha : parse a with
  | ok e =>
    cases hb : parse b with
    | error failure =>
      rw [ha, hb] at hgist
      cases hgist
    | ok e' =>
      rw [ha, hb] at hgist
      cases Except.ok.inj hgist
      show (verdict a (e.holds look)).1 = (verdict b (e.holds look)).1
      cases e.holds look with
      | ok v => rfl
      | error failure => rw [verdict_error, verdict_error]
  | error failure =>
    cases hb : parse b with
    | ok e =>
      rw [ha, hb] at hgist
      cases hgist
    | error failure' =>
      rw [ha, hb] at hgist
      have hproblem : failure.problem? = failure'.problem? := Except.error.inj hgist
      show (verdict a (.error (.ofParse failure))).1 = (verdict b (.error (.ofParse failure'))).1
      rw [verdict_error, verdict_error]
      -- either both numerals are too long or none is
      cases failure <;> cases failure' <;> first | rfl | cases hproblem

end Condition

/-- A condition may be trimmed: what is reported of it may change, but not whether it holds. -/
theorem judgeIn_trim (scope : Scope) (text : String) :
    (judgeIn scope (String.ofList (trim text.toList))).1 = (judgeIn scope text).1 := by
  rw [Renderer.judgeIn_eq_verdict, Renderer.judgeIn_eq_verdict]
  exact Condition.verdict_evaluate scope.lookup _ _ (Condition.spelled_tokenize_trim text).symm

end Stencil
