import Stencil.Proofs.ConditionFailures
import Stencil.Proofs.QuotedTexts

/-!
# Where warnings come from

A rendering reports loops over what is no list, and conditions that fail. What it reports of a
condition names the text of the condition and the reason, and the reason tells whether the text
breaks the grammar: a syntax error is worded as no other failure is. So a template whose conditions
can all be read is rendered without a warning of a syntax error.

The text of the condition stands quoted in the middle of the warning, before the reason. It may hold
anything, even the wording of another reason; that the reason can be told all the same is
`quote_append_cancel`.

## Key results

- `not_isSyntaxWarning_note?`: only a syntax error is reported as one.
- `Renderer.reports_outcomes`: the conditions that the notes of a rendering come from.
- `not_isSyntaxWarning_renderIn`: a rendering without conditions that break the grammar.
-/

namespace Stencil

namespace Condition

/-! ## Wordings -/

/-- The note reports that some text breaks the grammar of conditions. -/
def IsSyntaxWarning (n : Note) : Prop :=
  ∃ text error, (Failure.malformed error).note? text = some n

theorem head?_append (s t : String) (c : Char) (h : s.toList.head? = some c) :
    (s ++ t).toList.head? = some c := by
  rw [String.toList_append, List.head?_append, h, Option.some_or]

theorem head?_message_syntaxError (error : SyntaxError) :
    error.message.toList.head? = some 'P' :=
  head?_append _ _ _ (head?_append _ _ _ (head?_append _ _ _ rfl))

/-- The wording of a syntax error begins as no other reason does. -/
theorem head?_message_compareError (error : CompareError) :
    error.message.toList.head? ≠ some 'P' := by
  cases error with
  | incomparable left operator right =>
    have hhead : (CompareError.incomparable left operator right).message.toList.head? =
        some 'C' :=
      head?_append _ _ _ (head?_append _ _ _ (head?_append _ _ _ (head?_append _ _ _
        (head?_append _ _ _ rfl))))
    rw [hhead]
    decide
  | unknownOperator operator =>
    have hhead : (CompareError.unknownOperator operator).message.toList.head? = some 'U' :=
      head?_append _ _ _ rfl
    rw [hhead]
    decide

/-- Warnings with the same text have the same reason, whatever the conditions they name. -/
theorem reason_eq (text text' reason reason' : String)
    (h : "Condition evaluation failed for " ++ Text.quote text ++ ": " ++ reason =
      "Condition evaluation failed for " ++ Text.quote text' ++ ": " ++ reason') :
    reason = reason' := by
  rw [String.append_assoc, String.append_assoc, String.append_assoc, String.append_assoc] at h
  have hquoted := quote_append_cancel _ _ _ _ (String.append_right_inj _ |>.1 h)
  exact (String.append_right_inj _).1 hquoted

/-- Only a syntax error is reported as one. -/
theorem not_isSyntaxWarning_note? (text : String) (failure : Failure) (n : Note)
    (hn : failure.note? text = some n) (h : ∀ error, failure ≠ .malformed error) :
    ¬ IsSyntaxWarning n := by
  rintro ⟨text', error, hnote⟩
  rw [← hn] at hnote
  have hhead := head?_message_syntaxError error
  cases failure with
  | malformed error' => exact h error' rfl
  | refused error' =>
    rw [reason_eq _ _ _ _ (congrArg Note.message (Option.some.inj hnote))] at hhead
    exact head?_message_compareError error' hhead
  | tooLong =>
    have hmessage := congrArg Note.message (Option.some.inj hnote)
    have htail : ": expression is too long" = ": " ++ "expression is too long" := by decide
    dsimp only [Note.warning] at hmessage
    rw [htail, ← String.append_assoc] at hmessage
    rw [reason_eq _ _ _ _ hmessage] at hhead
    exact absurd hhead (by decide)
  | overlong => cases hnote

/-- A loop over what is no list is reported otherwise. -/
theorem not_isSyntaxWarning_notAList (collection : String) :
    ¬ IsSyntaxWarning (Renderer.notAList collection) := by
  rintro ⟨text, error, hnote⟩
  cases congrArg Note.level (Option.some.inj hnote)

/-! ## Evaluation has no syntax errors -/

/-- A relation fails by errors of its own. -/
theorem relate_ne_malformed (r : Relation) (one : Bool) (left right : Value)
    (error : SyntaxError) : relate r one left right ≠ .error (.malformed error) := by
  have hequal : relateEqual one left right ≠ .error (.malformed error) := by
    unfold relateEqual
    generalize (if one then left.equalSelf else left.equal right) = result
    cases result with
    | ok b => exact fun h => by cases h
    | error failure => cases failure <;> exact fun h => by cases h
  have hcompare : ∀ result : Except CompareFailure Bool,
      result.mapError Failure.ofCompare ≠ .error (.malformed error) := by
    intro result h
    cases result with
    | ok b => cases h
    | error failure => cases failure <;> cases h
  cases r with
  | eq => exact hequal
  | ne =>
    rw [relate]
    cases hresult : relateEqual one left right with
    | ok b => exact fun h => by cases h
    | error failure =>
      rw [hresult] at hequal
      exact hequal
  | _ => exact hcompare _

theorem valueIn_ne_malformed (look : String → Value) (e : Expr) (room : Nat) :
    Settles (fun _ => True) (∀ error, · ≠ .malformed error) (e.valueIn look room) := by
  refine settles_valueIn (fun _ => trivial) nofun ?_ look (fun _ => trivial) e
    (fun _ _ => trivial) room
  rintro r one left right - - failure hresult error rfl
  exact relate_ne_malformed r one left right error hresult

/-- A syntax error in the evaluation of a text is one in its reading. -/
theorem parse_of_evaluate (look : String → Value) (text : String) (error : SyntaxError)
    (h : evaluate look text = .error (.malformed error)) :
    parse text = .error (.malformed error) := by
  rw [evaluate, read_eq] at h
  cases hparse : parse text with
  | ok e =>
    rw [hparse] at h
    have hvalue := valueIn_ne_malformed look e operatorLimit
    have hholds : (e.valueIn look operatorLimit).map Value.isTruthy = .error (.malformed error) := h
    generalize e.valueIn look operatorLimit = result at hvalue hholds
    cases result with
    | ok v => cases hholds
    | error failure =>
      cases hholds
      exact absurd rfl (hvalue error)
  | error failure =>
    rw [hparse] at h
    cases failure with
    | malformed error' =>
      cases h
      rfl
    | overlong => cases h

end Condition

/-! ## Notes of a rendering -/

namespace Rendered

theorem notes_append_subset (a b : Rendered) : (a.append b).notes ⊆ a.notes ++ b.notes := by
  unfold append
  split
  · exact List.Subset.refl _
  · exact List.subset_append_left _ _

theorem exists_of_mem_notes_join (rs : List Rendered) (n : Note) (h : n ∈ (join rs).notes) :
    ∃ r ∈ rs, n ∈ r.notes := by
  induction rs with
  | nil => cases h
  | cons r rs ih =>
    rcases List.mem_append.1 (notes_append_subset r (join rs) h) with h | h
    · exact ⟨r, List.mem_cons_self, h⟩
    · obtain ⟨r', hr', hn⟩ := ih h
      exact ⟨r', List.mem_cons_of_mem r hr', hn⟩

end Rendered

namespace Renderer

open Template

/-- The note is of a loop over what is no list, or of the failure of one of the conditions. -/
def Reports (conditions : List String) (n : Note) : Prop :=
  (∃ collection, n = notAList collection) ∨
    ∃ expression ∈ conditions, ∃ look failure,
      Condition.evaluate look expression = .error failure ∧ failure.note? expression = some n

theorem Reports.mono {conditions others : List String} {n : Note} (h : Reports conditions n)
    (hsubset : conditions ⊆ others) : Reports others n := by
  rcases h with h | ⟨expression, hmem, h⟩
  · exact .inl h
  · exact .inr ⟨expression, hsubset hmem, h⟩

/-- The notes on a condition. -/
theorem reports_judgeIn (scope : Scope) (expression : String) (n : Note)
    (h : n ∈ (judgeIn scope expression).2) : Reports [expression] n := by
  rw [judgeIn_eq_verdict] at h
  cases hvalue : Condition.evaluate scope.lookup expression with
  | ok b =>
    rw [hvalue] at h
    cases h
  | error failure =>
    rw [hvalue, Condition.verdict] at h
    cases hnote : failure.note? expression with
    | none =>
      rw [hnote] at h
      cases h
    | some m =>
      rw [hnote] at h
      rw [List.mem_singleton.1 h]
      exact .inr ⟨expression, List.mem_singleton_self _, _, failure, hvalue, hnote⟩

mutual

theorem reports_outcome (scope : Scope) (node : Node) (n : Note)
    (h : n ∈ (outcome scope node).notes) : Reports node.conditions n := by
  cases node with
  | text content => cases h
  | placeholder name offset => cases h
  | loop item collection offset body =>
    unfold outcome at h
    split at h
    · next elements _ =>
      obtain ⟨r, hr, hn⟩ := Rendered.exists_of_mem_notes_join _ n h
      obtain ⟨element, -, rfl⟩ := List.mem_map.1 hr
      exact reports_outcomes _ body n hn
    · exact .inl ⟨collection, List.mem_singleton.1 h⟩
  | conditional expression offset body =>
    have hjudge := reports_judgeIn scope expression n
    have hown : [expression] ⊆ (Node.conditional expression offset body).conditions :=
      List.cons_subset_cons _ (List.nil_subset _)
    unfold outcome at h
    generalize judgeIn scope expression = verdict at h hjudge
    obtain ⟨e | b, notes⟩ := verdict
    · exact (hjudge h).mono hown
    · cases b with
      | false => exact (hjudge h).mono hown
      | true =>
        rcases List.mem_append.1 (Rendered.notes_append_subset _ _ h) with h | h
        · exact (hjudge h).mono hown
        · exact (reports_outcomes scope body n h).mono (List.subset_cons_self _ _)

theorem reports_outcomes (scope : Scope) (nodes : List Node) (n : Note)
    (h : n ∈ (outcomes scope nodes).notes) : Reports (Node.conditionsOfAll nodes) n := by
  cases nodes with
  | nil => cases h
  | cons node rest =>
    rcases List.mem_append.1 (Rendered.notes_append_subset _ _ h) with h | h
    · exact (reports_outcome scope node n h).mono (List.subset_append_left _ _)
    · exact (reports_outcomes scope rest n h).mono (List.subset_append_right _ _)

end

end Renderer

/-- A rendering without conditions that break the grammar has no warning of a syntax error. -/
theorem not_isSyntaxWarning_renderIn (scope : Scope) (nodes : List Template.Node)
    (h : ∀ expression ∈ Template.Node.conditionsOfAll nodes, ∀ error,
      Condition.parse expression ≠ .error (.malformed error)) :
    ∀ n ∈ (renderIn scope nodes).notes, ¬ Condition.IsSyntaxWarning n := by
  intro n hn
  rw [renderIn_eq_outcomes] at hn
  rcases Renderer.reports_outcomes scope nodes n hn with
    ⟨collection, rfl⟩ | ⟨expression, hmem, look, failure, hvalue, hnote⟩
  · exact Condition.not_isSyntaxWarning_notAList collection
  · refine Condition.not_isSyntaxWarning_note? expression failure n hnote ?_
    rintro error rfl
    exact h expression hmem error (Condition.parse_of_evaluate look expression error hvalue)

end Stencil
