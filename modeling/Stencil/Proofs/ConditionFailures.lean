import Stencil.Proofs.RenderOutcome
import Stencil.Proofs.ShortConditions

/-!
# How conditions fail

A condition that cannot be read or evaluated does not hold, and one warning says why. There is one
failure for which that is not so: an integer of too many digits, in the condition or in the data,
ends the rendering. Within the digit limit it cannot happen: a condition all of whose numerals and
strings are short, evaluated in a scope of short values, has a truth value or a failure that is
reported, and a template with such conditions is rendered.

The constants of a short condition are short, and so is what its paths read. So every value that
the evaluation meets is short, which is the invariant of `valueIn_settles`.

## Key results

- `settles_valueIn`: the values and the failures of a condition, by those of relations.
- `valueIn_settles`: a condition with short constants has a short value or a failure to report.
- `evaluate_ne_overlong`: the same for the text of a condition.
- `exists_text_outcomes`: the text that nodes with such conditions give.
- `judgeIn_settles`: how a condition is judged, and what it means for a rendering.
- `judgeIn_ones`: a condition that is not judged.
-/

namespace Stencil.Condition

/-! ## What evaluation keeps -/

/-- The result is a value of one kind, or a failure of another. -/
def Settles (good : Value → Prop) (bad : Failure → Prop) : Except Failure Value → Prop
  | .ok v => good v
  | .error failure => bad failure

section Settles

variable {good : Value → Prop} {bad : Failure → Prop}

theorem settles_bind (x : Except Failure Value) (f : Value → Except Failure Value)
    (hx : Settles good bad x) (hf : ∀ v, good v → Settles good bad (f v)) :
    Settles good bad (x >>= f) := by
  cases x with
  | ok v => exact hf v hx
  | error failure => exact hx

/-- Let the constants and the paths of a condition have values of a kind that all truth values are
of. If relations between such values fail in certain ways only, so does the condition, and its value
is of that kind. -/
theorem settles_valueIn (hbool : ∀ b, good (.bool b)) (htooLong : bad .tooLong)
    (hrelate : ∀ r one left right, good left → good right → ∀ failure,
      relate r one left right = .error failure → bad failure)
    (look : String → Value) (hlook : ∀ path, good (look path)) (e : Expr)
    (he : ∀ l ∈ e.literals, good l.value) (room : Nat) :
    Settles good bad (e.valueIn look room) := by
  induction e generalizing room with
  | literal l => exact he l List.mem_cons_self
  | path name => exact hlook name
  | group e ih => exact ih he room
  | negation e ih => exact settles_bind _ _ (ih he room) fun v _ => hbool _
  | compare r left right ihl ihr =>
    have hl := ihl (fun l hl => he l (List.mem_append_left _ hl)) room
    have hr := ihr (fun l hl => he l (List.mem_append_right _ hl)) room
    rw [Expr.valueIn]
    refine settles_bind _ _ hl fun l hl => settles_bind _ _ hr fun v hv => ?_
    have hfails := hrelate r (left.readsSame right) l v hl hv
    cases hresult : relate r (left.readsSame right) l v with
    | ok b => exact hbool b
    | error failure => exact hfails failure hresult
  | both left right ihl ihr =>
    cases room with
    | zero => exact htooLong
    | succ room =>
      have hl := ihl (fun l hl => he l (List.mem_append_left _ hl)) room
      have hr := ihr (fun l hl => he l (List.mem_append_right _ hl)) room
      rw [Expr.valueIn]
      refine settles_bind _ _ hl fun l _ => ?_
      -- the right side is looked at only if the left one does not settle the answer
      split
      · exact settles_bind _ _ hr fun v _ => hbool _
      · exact hbool _
  | either left right ihl ihr =>
    cases room with
    | zero => exact htooLong
    | succ room =>
      have hl := ihl (fun l hl => he l (List.mem_append_left _ hl)) room
      have hr := ihr (fun l hl => he l (List.mem_append_right _ hl)) room
      rw [Expr.valueIn]
      refine settles_bind _ _ hl fun l _ => ?_
      split
      · exact hbool _
      · exact settles_bind _ _ hr fun v _ => hbool _

end Settles

/-! ## Evaluation within the limit -/

/-- A comparison that fails by its own errors keeps them. -/
theorem mapError_ne_overlong (result : Except CompareFailure Bool)
    (h : result ≠ .error .overlong) : result.mapError Failure.ofCompare ≠ .error .overlong := by
  cases result with
  | ok b => exact fun hmap => by cases hmap
  | error failure =>
    cases failure with
    | refused error => exact fun hmap => by cases hmap
    | overlong => exact absurd rfl h

/-- Whether a relation holds between short values is settled. -/
theorem relate_ne_overlong (r : Relation) (one : Bool) (left right : Value)
    (hl : left.isShort = true) (hr : right.isShort = true) :
    relate r one left right ≠ .error .overlong := by
  have hequal : relateEqual one left right ≠ .error .overlong := by
    have hne : (if one then left.equalSelf else left.equal right) ≠ .error .overlong := by
      split
      · exact Value.equalSelf_ne_overlong left hl
      · exact Value.equal_ne_overlong left right hl hr
    unfold relateEqual
    generalize (if one then left.equalSelf else left.equal right) = result at hne
    cases result with
    | ok b => exact fun h => by cases h
    | error failure =>
      cases failure with
      | overlong => exact absurd rfl hne
      | tooDeep => exact fun h => by cases h
  have hcompare := mapError_ne_overlong _ (Value.compare_ne_overlong left right hl hr r.symbol)
  cases r with
  | eq => exact hequal
  | ne =>
    rw [relate]
    cases hresult : relateEqual one left right with
    | ok b => exact fun h => by cases h
    | error failure =>
      rw [hresult] at hequal
      exact hequal
  | _ => exact hcompare

/-- A condition with short constants, evaluated among short values. -/
theorem valueIn_settles (look : String → Value) (hlook : ∀ path, (look path).isShort = true)
    (e : Expr) (he : ∀ l ∈ e.literals, l.value.isShort = true) (room : Nat) :
    Settles (·.isShort = true) (· ≠ .overlong) (e.valueIn look room) := by
  refine settles_valueIn (fun b => rfl) nofun ?_ look hlook e he room
  rintro r one left right hl hr failure hresult rfl
  exact relate_ne_overlong r one left right hl hr hresult

/-- A short condition in a short scope has a truth value, or a failure that is reported. -/
theorem evaluate_ne_overlong (scope : Scope) (hscope : scope.IsShort) (text : String)
    (htext : IsShort text) : evaluate scope.lookup text ≠ .error .overlong := by
  rw [evaluate, read_eq]
  cases hparse : parse text with
  | error failure =>
    have hne := parse_ne_overlong text fun ts hts t ht => (htext ts hts t ht).1
    rw [hparse] at hne
    cases failure with
    | malformed error => exact fun h => by cases h
    | overlong => exact absurd rfl hne
  | ok e =>
    have hvalue := valueIn_settles scope.lookup (Scope.lookup_isShort scope hscope) e
      (isShort_of_mem_literals text htext e hparse) operatorLimit
    show (e.valueIn scope.lookup operatorLimit).map Value.isTruthy ≠ _
    revert hvalue
    generalize e.valueIn scope.lookup operatorLimit = result
    intro hvalue h
    cases result with
    | ok v => cases h
    | error failure =>
      cases h
      exact hvalue rfl

/-- Every failure but that of a numeral that is too long is reported by a warning. -/
theorem exists_note? (text : String) (failure : Failure) (h : failure ≠ .overlong) :
    ∃ message, failure.note? text = some (.warning message) := by
  cases failure with
  | overlong => exact absurd rfl h
  | _ => exact ⟨_, rfl⟩

end Stencil.Condition

namespace Stencil

open Renderer

/-! ## Rendering within the limit -/

namespace Template.Node

mutual

/-- The conditions of a node and of the nodes in it. -/
def conditions : Node → List String
  | text _ | placeholder _ _ => []
  | loop _ _ _ body => conditionsOfAll body
  | conditional expression _ body => expression :: conditionsOfAll body

/-- The conditions of nodes. -/
def conditionsOfAll : List Node → List String
  | [] => []
  | node :: nodes => node.conditions ++ conditionsOfAll nodes

end

end Template.Node

namespace Rendered

theorem exists_text_append (a b : Rendered) (ha : ∃ s, a.text = .ok s) (hb : ∃ s, b.text = .ok s) :
    ∃ s, (a.append b).text = .ok s := by
  obtain ⟨s, hs⟩ := ha
  obtain ⟨t, ht⟩ := hb
  exact ⟨s ++ t, by rw [append, hs]; simp [ht, Except.map]⟩

theorem exists_text_join (rs : List Rendered) (h : ∀ r ∈ rs, ∃ s, r.text = .ok s) :
    ∃ s, (join rs).text = .ok s := by
  induction rs with
  | nil => exact ⟨"", rfl⟩
  | cons r rs ih =>
    exact exists_text_append r (join rs) (h r List.mem_cons_self)
      (ih fun r' hr' => h r' (List.mem_cons_of_mem r hr'))

end Rendered

/-- A short condition in a short scope is judged. -/
theorem exists_judgeIn (scope : Scope) (hscope : scope.IsShort) (text : String)
    (htext : Condition.IsShort text) : ∃ b notes, judgeIn scope text = (.ok b, notes) := by
  have hne := Condition.evaluate_ne_overlong scope hscope text htext
  rw [judgeIn_eq_verdict]
  cases hvalue : Condition.evaluate scope.lookup text with
  | ok b => exact ⟨b, [], rfl⟩
  | error failure =>
    have hfailure : failure ≠ .overlong := by
      intro h
      subst h
      exact hne hvalue
    obtain ⟨message, hmessage⟩ := Condition.exists_note? text failure hfailure
    exact ⟨false, [.warning message], by rw [Condition.verdict, hmessage]⟩

mutual

/-- A node with short conditions gives a text in a short scope. -/
theorem exists_text_outcome (scope : Scope) (hscope : scope.IsShort) (node : Template.Node)
    (hnode : ∀ e ∈ node.conditions, Condition.IsShort e) :
    ∃ s, (outcome scope node).text = .ok s := by
  cases node with
  | text content => exact ⟨content, rfl⟩
  | placeholder name offset => exact Value.exists_text? _ (scope.lookup_isShort hscope name)
  | loop item collection offset body =>
    have hcollection := scope.lookup_isShort hscope collection
    unfold outcome
    cases hvalue : scope.lookup collection with
    | list elements =>
      rw [hvalue] at hcollection
      -- each turn of the loop has a short scope
      refine Rendered.exists_text_join _ ?_
      intro r hr
      obtain ⟨element, helement, rfl⟩ := List.mem_map.1 hr
      exact exists_text_outcomes _ (scope.bind_isShort hscope item element
        (Value.isShort_of_mem elements hcollection element helement)) body hnode
    | _ => exact ⟨"", rfl⟩
  | conditional expression offset body =>
    obtain ⟨b, notes, hjudge⟩ :=
      exists_judgeIn scope hscope expression (hnode expression List.mem_cons_self)
    unfold outcome
    rw [hjudge]
    cases b with
    | false => exact ⟨"", rfl⟩
    | true =>
      exact Rendered.exists_text_append _ _ ⟨"", rfl⟩
        (exists_text_outcomes scope hscope body fun e he => hnode e (List.mem_cons_of_mem _ he))

/-- Nodes with short conditions give a text in a short scope. -/
theorem exists_text_outcomes (scope : Scope) (hscope : scope.IsShort)
    (nodes : List Template.Node)
    (hnodes : ∀ e ∈ Template.Node.conditionsOfAll nodes, Condition.IsShort e) :
    ∃ s, (outcomes scope nodes).text = .ok s := by
  cases nodes with
  | nil => exact ⟨"", rfl⟩
  | cons node rest =>
    exact Rendered.exists_text_append _ _
      (exists_text_outcome scope hscope node fun e he => hnodes e (List.mem_append_left _ he))
      (exists_text_outcomes scope hscope rest fun e he => hnodes e (List.mem_append_right _ he))

end

/-- A condition is judged by its value if it has one; otherwise it does not hold and there is one
warning, unless an integer has too many digits. That cannot happen within the digit limit, and no
condition of so few characters goes over it: a short condition in a short scope is judged, and a
template with such conditions is rendered. -/
theorem judgeIn_settles (scope : Scope) (text : String) :
    (match Condition.evaluate scope.lookup text with
      | .ok b => judgeIn scope text = (.ok b, [])
      | .error .overlong => judgeIn scope text = (.error .overlong, [])
      | .error _ => ∃ message, judgeIn scope text = (.ok false, [.warning message])) ∧
    (text.length ≤ digitLimit → Condition.IsShort text) ∧
    (scope.IsShort → Condition.IsShort text →
      Condition.evaluate scope.lookup text ≠ .error .overlong) ∧
    ∀ nodes, scope.IsShort →
      (∀ e ∈ Template.Node.conditionsOfAll nodes, Condition.IsShort e) →
      ∃ s, (renderIn scope nodes).text = .ok s := by
  refine ⟨?_, Condition.isShort_of_length_le text, ?_, ?_⟩
  · rw [judgeIn_eq_verdict]
    split
    · next b hvalue => rw [hvalue]; rfl
    · next hvalue => rw [hvalue]; rfl
    · next failure hne hvalue =>
      obtain ⟨message, hmessage⟩ := Condition.exists_note? text failure hne
      exact ⟨message, by rw [hvalue, Condition.verdict, hmessage]⟩
  · intro hscope
    exact Condition.evaluate_ne_overlong scope hscope text
  · intro nodes hscope hnodes
    rw [renderIn_eq_outcomes]
    exact exists_text_outcomes scope hscope nodes hnodes

/-- A text before a truth value: the condition is judged, with a warning, and a template that holds
it is rendered. -/
theorem judgeIn_settles_incomparable :
    let scope : Scope := .root (.object [("x", .text "abc"), ("y", .bool true)]) []
    let nodes : List Template.Node := [.conditional "x < y" 0 [.text "T"], .placeholder "x" 20]
    scope.IsShort ∧ Condition.IsShort "x < y" ∧
      Condition.evaluate scope.lookup "x < y" =
        .error (.refused (.incomparable "'abc'" "<" "True")) ∧
      (∃ message, judgeIn scope "x < y" = (.ok false, [.warning message])) ∧
      ∃ s, (renderIn scope nodes).text = .ok s := by
  intro scope nodes
  have hscope : scope.IsShort := ⟨by decide, nofun, nofun⟩
  have hvalue : Condition.evaluate scope.lookup "x < y" =
      .error (.refused (.incomparable "'abc'" "<" "True")) := by decide +kernel
  obtain ⟨hjudge, hshort, -, hrender⟩ := judgeIn_settles scope "x < y"
  rw [hvalue] at hjudge
  have hcondition := hshort (by decide)
  refine ⟨hscope, hcondition, hvalue, hjudge, hrender nodes hscope ?_⟩
  intro e he
  rwa [List.mem_singleton.1 he]
/-- A condition of 4301 digits is not judged, and ends the rendering it stands in. -/
theorem judgeIn_ones :
    let scope : Scope := .root (.object []) []
    let ones := String.ofList (List.replicate 4301 '1')
    judgeIn scope ones = (.error .overlong, []) ∧
      (renderIn scope [.conditional ones 0 []]).text = .error .overlong := by
  intro scope ones
  have hparse : Condition.parse ones = .error .overlong :=
    Condition.parse_digits _ (fun d hd => by rw [List.eq_of_mem_replicate hd]; decide)
      (by rw [List.length_replicate]; decide)
  have hjudge : judgeIn scope ones = (.error .overlong, []) := by
    rw [judgeIn_eq_verdict, Condition.evaluate, Condition.read_eq, hparse]
    rfl
  refine ⟨hjudge, ?_⟩
  rw [renderIn_eq_outcomes, outcomes, outcome, hjudge]
  rfl

end Stencil
