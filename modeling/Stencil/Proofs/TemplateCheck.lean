import Stencil.Proofs.ConditionWarnings
import Stencil.Proofs.DirectiveReading
import Stencil.Proofs.MarkerPlaces
import Stencil.Proofs.ReaderReuse
import Stencil.Proofs.StrictReading
import Stencil.Proofs.TreeReads
import Stencil.Template.Report

/-!
# The list of a template's problems

The check of a template lists what is wrong with its nesting, and then each conditional whose
condition breaks the grammar, at the line and the column of its marker. One reader goes over all the
conditions, and it may have stopped halfway in the one before; each line is still what a fresh
reader says of its condition (`Condition.Reader.parse_eq`). The conditionals are those of the text,
whether or not a block comes of them. What a rendering judges are the conditions of the block tree;
they all come from markers of the text (`mem_conditionals_of_mem_conditionsOfAll`). So a template
with an empty list is rendered without a complaint about its syntax.

## Key results

- `exists_conditionProblems`: the lines on conditionals, one for each that breaks the grammar.
- `check_lists_problems`: the whole list, and what it means that it is empty.
-/

namespace Stencil.Template

/-! ## Lines on conditionals -/

/-- A fresh reader finds that the condition breaks the grammar. -/
def ConditionalHead.isRejected (head : ConditionalHead) : Bool :=
  match Condition.Reader.fresh.parse head.expression with
  | .error (.malformed _) => true
  | _ => false

/-- No condition of the template has an integer of too many digits. -/
def HasShortConditions (t : Template) : Prop :=
  ∀ head ∈ t.outline.conditionals, ∀ ts, Condition.tokenize head.expression = .ok ts →
    ∀ u ∈ ts.tokens, u.token.IsShort

/-- Conditions that are no longer than the digit limit have no such integer. -/
theorem hasShortConditions_of_length_le (t : Template)
    (h : ∀ head ∈ t.outline.conditionals, head.expression.length ≤ digitLimit) :
    t.HasShortConditions := fun head hhead ts hts u hu =>
  (Condition.isShort_of_length_le head.expression (h head hhead) ts hts u hu).1

/-- The line tells where the marker of a conditional stands and what a fresh reader finds wrong with
its condition. -/
def Describes (t : Template) (head : ConditionalHead) (line : String) : Prop :=
  ∃ token ∈ (tokenize t.body).tokens, token.conditionalHead? = some head ∧
    ∃ error, Condition.Reader.fresh.parse head.expression = .error (.malformed error) ∧
      line = token.place.toText ++ ": invalid condition " ++ Text.quote head.expression ++ ": " ++
        error.problem.message

/-- The line on a conditional, if its condition breaks the grammar. It is the same whatever state
the reader is in. -/
theorem exists_conditionProblem? (t : Template) (token : Token)
    (ht : token ∈ (tokenize t.body).tokens) (head : ConditionalHead)
    (hhead : token.conditionalHead? = some head)
    (hshort : Condition.parse head.expression ≠ .error .overlong) :
    if head.isRejected then
      ∃ line, (∀ r : Condition.Reader,
        t.conditionProblem? head (r.parse head.expression) = .ok (some line)) ∧
        t.Describes head line
    else ∀ r : Condition.Reader, t.conditionProblem? head (r.parse head.expression) = .ok none := by
  simp only [ConditionalHead.isRejected, Describes, Condition.Reader.parse_eq]
  cases hparse : Condition.parse head.expression with
  | ok e => exact fun _ => rfl
  | error failure =>
    cases failure with
    | overlong => exact absurd hparse hshort
    | malformed error =>
      refine ⟨_, fun _ => ?_, token, ht, hhead, error, rfl, rfl⟩
      obtain ⟨-, hstart, -⟩ := token.eq_of_conditionalHead? head hhead
      rw [conditionProblem?, hstart, lineColumn_offset t.body token ht]
      rfl

/-- The lines on conditionals: one for each whose condition breaks the grammar, in order. The state
that the reader starts in plays no part, nor does the one in which each condition leaves it. -/
theorem exists_conditionProblems (t : Template) (heads : List ConditionalHead)
    (hheads : ∀ head ∈ heads,
      ∃ token ∈ (tokenize t.body).tokens, token.conditionalHead? = some head)
    (hshort : ∀ head ∈ heads, Condition.parse head.expression ≠ .error .overlong) :
    ∃ lines, (∀ r : Condition.Reader, t.conditionProblems r heads = .ok lines) ∧
      List.Forall₂ t.Describes (heads.filter (·.isRejected)) lines := by
  induction heads with
  | nil => exact ⟨[], fun _ => rfl, .nil⟩
  | cons head rest ih =>
    obtain ⟨lines, hlines, hdescribes⟩ := ih
      (fun other hmem => hheads other (List.mem_cons_of_mem head hmem))
      (fun other hmem => hshort other (List.mem_cons_of_mem head hmem))
    obtain ⟨token, ht, hhead⟩ := hheads head List.mem_cons_self
    have hline := exists_conditionProblem? t token ht head hhead (hshort head List.mem_cons_self)
    cases hrejected : head.isRejected with
    | false =>
      rw [hrejected, if_neg Bool.false_ne_true] at hline
      rw [List.filter_cons_of_neg (by rw [hrejected]; exact Bool.false_ne_true)]
      refine ⟨lines, fun r => ?_, hdescribes⟩
      -- the rest goes on with the reader that this condition leaves
      rw [conditionProblems, hline, hlines]
      rfl
    | true =>
      rw [hrejected, if_pos rfl] at hline
      obtain ⟨line, hline, hdescribed⟩ := hline
      rw [List.filter_cons_of_pos hrejected]
      refine ⟨line :: lines, fun r => ?_, .cons hdescribed hdescribes⟩
      rw [conditionProblems, hline, hlines]
      rfl

/-! ## Conditions of the tree -/

namespace Node

mutual

theorem mem_walk_of_mem_conditions (node : Node) (expression : String)
    (h : expression ∈ node.conditions) :
    ∃ offset, .opening (.conditional expression) offset ∈ node.walk := by
  cases node with
  | text content => cases h
  | placeholder name offset => cases h
  | loop item collection offset body =>
    obtain ⟨i, hi⟩ := mem_walkAll_of_mem_conditionsOfAll body expression h
    exact ⟨i, List.mem_cons_of_mem _ (List.mem_append_left _ hi)⟩
  | conditional expression' offset body =>
    rcases List.mem_cons.1 h with rfl | h
    · exact ⟨offset, List.mem_cons_self⟩
    · obtain ⟨i, hi⟩ := mem_walkAll_of_mem_conditionsOfAll body expression h
      exact ⟨i, List.mem_cons_of_mem _ (List.mem_append_left _ hi)⟩

/-- A walk through nodes meets each of their conditions. -/
theorem mem_walkAll_of_mem_conditionsOfAll (nodes : List Node) (expression : String)
    (h : expression ∈ conditionsOfAll nodes) :
    ∃ offset, .opening (.conditional expression) offset ∈ walkAll nodes := by
  cases nodes with
  | nil => cases h
  | cons node rest =>
    rcases List.mem_append.1 h with h | h
    · obtain ⟨i, hi⟩ := mem_walk_of_mem_conditions node expression h
      exact ⟨i, List.mem_append_left _ hi⟩
    · obtain ⟨i, hi⟩ := mem_walkAll_of_mem_conditionsOfAll rest expression h
      exact ⟨i, List.mem_append_right _ hi⟩

end

end Node

/-- The conditions of the tree of a template are those of conditionals in its text. -/
theorem mem_conditionals_of_mem_conditionsOfAll (source expression : String)
    (h : expression ∈ Node.conditionsOfAll (parse source).nodes) :
    ∃ head ∈ (parse source).outline.conditionals, head.expression = expression := by
  obtain ⟨offset, hwalk⟩ := Node.mem_walkAll_of_mem_conditionsOfAll _ expression h
  obtain ⟨token, ht, hdirective⟩ := exists_token_of_opening source _ offset hwalk
  refine ⟨⟨expression, token.offset, token.stop⟩, List.mem_filterMap.2 ⟨token, ht, ?_⟩, rfl⟩
  rw [Token.conditionalHead?, hdirective]

/-! ## The whole list -/

/-- The check of a template lists its problems: those of its nesting in order, and then one line for
each conditional whose condition a fresh reader rejects, in order, with the line and the column of
its marker. One reader reads all of them; whatever state it is in at the start, and in whatever
state a condition leaves it for the next one, the lines are the same. If there is nothing to list, a
strict reading gives the same template, so a strict rendering is the lenient one; and no rendering
reports a syntax error. -/
theorem check_lists_problems (source : String) (hshort : (parse source).HasShortConditions) :
    let t := parse source
    (∃ lines, t.check = .ok (t.problems.map Diagnostic.toText ++ lines) ∧
      (∀ r : Condition.Reader, t.conditionProblems r t.outline.conditionals = .ok lines) ∧
      List.Forall₂ t.Describes (t.outline.conditionals.filter (·.isRejected)) lines) ∧
    (t.check = .ok [] →
      parseWith true source = .ok t ∧
      (∀ useDefaults data, (parseWith true source).map (render · useDefaults data) =
        (parseWith false source).map (render · useDefaults data)) ∧
      ∀ useDefaults data, ∀ n ∈ (t.render useDefaults data).notes,
        ¬ Condition.IsSyntaxWarning n) := by
  intro t
  obtain ⟨lines, hlines, hdescribes⟩ := exists_conditionProblems t t.outline.conditionals
    (fun head hhead => List.mem_filterMap.1 hhead)
    (fun head hhead => Condition.parse_ne_overlong _ (hshort head hhead))
  have hcheck : t.check = .ok (t.problems.map Diagnostic.toText ++ lines) := by
    rw [check, hlines]
    rfl
  refine ⟨⟨lines, hcheck, hlines, hdescribes⟩, fun hempty => ?_⟩
  rw [hcheck] at hempty
  obtain ⟨hproblems, rfl⟩ := List.append_eq_nil_iff.1 (Except.ok.inj hempty)
  have hstrict : parseWith true source = .ok t := by
    show parseStrict source = _
    rw [parseStrict_eq, List.map_eq_nil_iff.1 hproblems]
  refine ⟨hstrict, fun useDefaults data => by rw [hstrict]; rfl, fun useDefaults data => ?_⟩
  refine not_isSyntaxWarning_renderIn _ _ fun expression hmem error hparse => ?_
  -- a condition that breaks the grammar would have a line
  obtain ⟨head, hhead, rfl⟩ := mem_conditionals_of_mem_conditionsOfAll source expression hmem
  have hrejected : head.isRejected = true := by
    rw [ConditionalHead.isRejected, Condition.Reader.parse_eq, hparse]
  have hnone := List.forall₂_nil_right_iff.1 hdescribes
  exact absurd (List.mem_filter.2 ⟨hhead, hrejected⟩) (hnone ▸ List.not_mem_nil)

/-- A conditional on the second line that nothing closes and whose condition breaks the grammar, and
a template with nothing to list. -/
theorem check_lists_problems_second_line :
    let t := parse "a\n \x7b%if (b%\x7d"
    let source := "\x7b%if b%\x7d\x7b%endif%\x7d"
    (t.HasShortConditions ∧ t.check = .ok ["2:2: Unclosed 'if' block",
      "2:2: invalid condition '(b': Expected ')' after grouped expression"]) ∧
    (parse source).HasShortConditions ∧ (parse source).check = .ok [] ∧
      parseWith true source = .ok (parse source) ∧
      ∀ useDefaults data, ∀ n ∈ ((parse source).render useDefaults data).notes,
        ¬ Condition.IsSyntaxWarning n := by
  intro t source
  constructor
  · have hblock : Text.cut? Defaults.openingMarker "a\n \x7b%if (b%\x7d".toList = none := by
      decide +kernel
    have htokens : (tokenize "a\n \x7b%if (b%\x7d").tokens = [
        ⟨⟨.run, "a\n ", "a\n "⟩, ⟨0, 1, 1⟩⟩,
        ⟨⟨.directive, "if (b", "\x7b%if (b%\x7d"⟩, ⟨3, 2, 2⟩⟩] := by decide +kernel
    have hif : Directive.classify "if (b" = some (.opening (.conditional "(b")) := by decide
    have hparse : Condition.Reader.fresh.parse "(b" = .error (.malformed ⟨.unclosed, 2⟩) := by
      decide +kernel
    have hconditionals : t.outline.conditionals = [⟨"(b", 3, 12⟩] := by
      show (parse _).outline.conditionals = _
      rw [parse_of_cut?_eq_none _ hblock, Outline.ofText, htokens]
      simp only [Outline.ofTokens, List.filterMap_cons, List.filterMap_nil, Token.conditionalHead?,
        Token.directive?, hif]
      rfl
    have hproblems : t.problems = [⟨.unclosed .conditional, 3, 2, 2⟩] := by
      show (parse _).problems = _
      rw [parse_of_cut?_eq_none _ hblock, htokens, Tree.ofTokens]
      simp only [List.foldl_cons, List.foldl_nil, Builder.read, hif]
      rfl
    have hshort : t.HasShortConditions :=
      hasShortConditions_of_length_le t (by rw [hconditionals]; decide)
    obtain ⟨⟨lines, hcheck, -, hdescribes⟩, -⟩ := check_lists_problems _ hshort
    have hrejected : t.outline.conditionals.filter (·.isRejected) = [⟨"(b", 3, 12⟩] := by
      rw [hconditionals, List.filter_cons_of_pos (by rw [ConditionalHead.isRejected, hparse])]
      rfl
    rw [hrejected] at hdescribes
    obtain ⟨line, rest, hdescribed, hrest, rfl⟩ := List.forall₂_cons_left_iff.1 hdescribes
    obtain rfl := List.forall₂_nil_left_iff.1 hrest
    obtain ⟨token, ht, hhead, error, herror, rfl⟩ := hdescribed
    have hplace : token = ⟨⟨.directive, "if (b", "\x7b%if (b%\x7d"⟩, ⟨3, 2, 2⟩⟩ := by
      have hbody : t.body = "a\n \x7b%if (b%\x7d" := by
        show (parse _).body = _
        rw [parse_of_cut?_eq_none _ hblock]
      rw [hbody, htokens] at ht
      rcases List.mem_pair.1 ht with rfl | rfl
      · cases hhead
      · rfl
    rw [hparse] at herror
    cases herror
    refine ⟨hshort, ?_⟩
    rw [hcheck, hproblems, hplace]
    decide
  · have hblock : Text.cut? Defaults.openingMarker source.toList = none := by decide +kernel
    have htokens : (tokenize source).tokens = [
        ⟨⟨.directive, "if b", "\x7b%if b%\x7d"⟩, ⟨0, 1, 1⟩⟩,
        ⟨⟨.directive, "endif", "\x7b%endif%\x7d"⟩, ⟨8, 1, 9⟩⟩] := by decide +kernel
    have hif : Directive.classify "if b" = some (.opening (.conditional "b")) := by decide
    have hend : Directive.classify "endif" = some (.closing .conditional) := by decide
    have hparse : Condition.Reader.fresh.parse "b" = .ok (.path "b") := by decide +kernel
    have hconditionals : (parse source).outline.conditionals = [⟨"b", 0, 8⟩] := by
      rw [parse_of_cut?_eq_none _ hblock, Outline.ofText, htokens]
      simp only [Outline.ofTokens, List.filterMap_cons, List.filterMap_nil, Token.conditionalHead?,
        Token.directive?, hif, hend]
      rfl
    have hproblems : (parse source).problems = [] := by
      rw [parse_of_cut?_eq_none _ hblock, htokens, Tree.ofTokens]
      simp only [List.foldl_cons, List.foldl_nil, Builder.read, hif, hend]
      rfl
    have hshort : (parse source).HasShortConditions :=
      hasShortConditions_of_length_le (parse source) (by rw [hconditionals]; decide)
    obtain ⟨⟨lines, hcheck, -, hdescribes⟩, hempty⟩ := check_lists_problems source hshort
    have hrejected : (parse source).outline.conditionals.filter (·.isRejected) = [] := by
      rw [hconditionals, List.filter_cons_of_neg (by
        rw [ConditionalHead.isRejected, hparse]
        exact Bool.false_ne_true)]
      rfl
    rw [hrejected] at hdescribes
    obtain rfl := List.forall₂_nil_left_iff.1 hdescribes
    rw [hproblems] at hcheck
    obtain ⟨hstrict, -, hquiet⟩ := hempty hcheck
    exact ⟨hshort, hcheck, hstrict, hquiet⟩

end Stencil.Template
