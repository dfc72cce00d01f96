import Mathlib.Control.Monad.Basic
import Stencil.Proofs.RenderOutcome

/-!
# The memory of a renderer

A renderer remembers the conditions it has read. The renderer that forgets them all, and reads the
text of a condition each time it judges it, does the same: from the same state it comes to the same
text and the same notes, or to the same error. Both add the same outcome to a renderer, so the two
are never compared step by step.

## Key results

- `afresh_judges`: a condition that is read anew is judged as before.
- `renderNodesAfresh_adds`: without a memory, nodes add the same outcome.
- `renderNodes_eq_afresh`: the memory does not show, and holds nothing wrong in the end.
-/

namespace Stencil

namespace Renderer

/-- Whether a condition holds in a scope. Its text is read, whatever is remembered. -/
def judgeAfresh (scope : Scope) (text : String) : RenderM Bool :=
  match Condition.read text with
  | .error failure => settle text (.error failure)
  | .ok e => settle text (e.holds scope.lookup)

mutual

/-- Renders a node without a memory. -/
def renderNodeAfresh (scope : Scope) : Template.Node → RenderM Unit
  | .text content => emit content
  | .placeholder name _ =>
    match scope.lookupText name with
    | .ok s => emit s
    | .error e => throw e
  | .loop item collection _ body =>
    match scope.lookup collection with
    | .list elements =>
      elements.forM fun element => renderNodesAfresh (scope.bind item element) body
    | _ => report (notAList collection)
  | .conditional expression _ body => do
    if ← judgeAfresh scope expression then renderNodesAfresh scope body

/-- Renders nodes one after another, without a memory. -/
def renderNodesAfresh (scope : Scope) : List Template.Node → RenderM Unit
  | [] => return ()
  | node :: rest => do
    renderNodeAfresh scope node
    renderNodesAfresh scope rest

end

/-- A condition that is read anew is judged as one that is remembered. -/
theorem afresh_judges (scope : Scope) (text : String) :
    Judges (judgeAfresh scope text) (judgeIn scope text) := by
  intro r hr
  refine ⟨r.known, hr, ?_⟩
  rw [judgeIn_eq_verdict]
  unfold judgeAfresh Condition.evaluate
  cases Condition.read text with
  | error failure => exact settle_run text _ r
  | ok e => exact settle_run text _ r

mutual

/-- Rendering a node without a memory adds its outcome. -/
theorem renderNodeAfresh_adds (scope : Scope) (node : Template.Node) :
    Adds (renderNodeAfresh scope node) (outcome scope node) := by
  cases node with
  | text content => exact emit_adds content
  | placeholder name offset =>
    unfold renderNodeAfresh outcome
    cases scope.lookupText name with
    | ok s => exact emit_adds s
    | error e => exact throw_adds e
  | loop item collection offset body =>
    unfold renderNodeAfresh outcome
    cases scope.lookup collection with
    | list elements =>
      exact forM_adds _ _ elements fun element _ =>
        renderNodesAfresh_adds (scope.bind item element) body
    | _ => exact report_adds (notAList collection)
  | conditional expression offset body =>
    unfold renderNodeAfresh outcome
    exact conditional_adds _ _ _ _ (renderNodesAfresh_adds scope body)
      (afresh_judges scope expression)

/-- Rendering nodes without a memory adds their outcome. -/
theorem renderNodesAfresh_adds (scope : Scope) (nodes : List Template.Node) :
    Adds (renderNodesAfresh scope nodes) (outcomes scope nodes) := by
  cases nodes with
  | nil => exact pure_adds
  | cons node rest =>
    unfold renderNodesAfresh outcomes
    exact bind_adds _ _ _ _ (renderNodeAfresh_adds scope node) (renderNodesAfresh_adds scope rest)

end

/-! ## What is remembered -/

/-- The conditions that a renderer remembers after its steps, also after an error. -/
def knownAfter : EStateM.Result Overlong Renderer Unit → Entries Condition.Expr
  | .ok _ r => r.known
  | .error _ r => r.known

theorem faithful_of_added (r : Renderer) (o : Rendered)
    (result : EStateM.Result Overlong Renderer Unit) (h : Added r o result) :
    Faithful (knownAfter result) := by
  cases h with
  | ok s notes known hk => exact hk
  | error e notes text known hk => exact hk

/-- A text that spells no expression is not remembered. -/
theorem get?_eq_none_of_faithful (known : Entries Condition.Expr) (h : Faithful known)
    (text : String) (failure : Condition.Failure) (hread : Condition.read text = .error failure) :
    known.get? text = none := by
  cases hget : known.get? text with
  | none => rfl
  | some e =>
    rw [h text e hget] at hread
    cases hread

/-- The memory of a renderer does not show. From any state in which nothing wrong is remembered,
rendering nodes comes to the same text and the same notes as when each condition is read anew, or to
the same error. Nothing wrong is remembered in the end, however the rendering ends, and nothing of a
text that spells no expression. -/
theorem renderNodes_eq_afresh (scope : Scope) (nodes : List Template.Node) (r : Renderer)
    (h : Faithful r.known) :
    let remembering := (renderNodes scope nodes).run r
    Rendered.ofRun remembering = .ofRun ((renderNodesAfresh scope nodes).run r) ∧
      Faithful (knownAfter remembering) ∧
      ∀ text failure, Condition.read text = .error failure →
        (knownAfter remembering).get? text = none := by
  intro remembering
  have hadds := renderNodes_adds scope nodes r h
  have hafresh := renderNodesAfresh_adds scope nodes r h
  have hknown := faithful_of_added _ _ _ hadds
  refine ⟨?_, hknown, get?_eq_none_of_faithful _ hknown⟩
  -- both renderers have added the outcome of the nodes
  rw [ofRun_of_added _ _ _ hadds, ofRun_of_added _ _ _ hafresh]

/-- In each turn of a loop a condition that is remembered from before, one that spells no
expression, and one that is read and then cannot be compared. -/
theorem renderNodes_eq_afresh_loop :
    let scope : Scope := .root (.object [("xs", .list [.text "1", .null])]) []
    let nodes : List Template.Node :=
      [.loop "x" "xs" 0 [.conditional "x" 1 [.text "a"], .conditional "x<" 2 [],
        .conditional "x<null" 3 []]]
    let r : Renderer := ⟨"", [], [("x", .path "x")]⟩
    let remembering := (renderNodes scope nodes).run r
    Faithful r.known ∧
      Rendered.ofRun remembering = .ofRun ((renderNodesAfresh scope nodes).run r) ∧
      Faithful (knownAfter remembering) ∧ (knownAfter remembering).get? "x<" = none := by
  intro scope nodes r remembering
  have hx : Condition.read "x" = .ok (.path "x") := by decide +kernel
  have hunfinished : Condition.read "x<" = .error (.malformed ⟨.unfinished, 2⟩) := by decide +kernel
  have hfaithful : Faithful r.known := faithful_put [] "x" (.path "x") faithful_nil hx
  obtain ⟨hrun, hknown, hnone⟩ := renderNodes_eq_afresh scope nodes r hfaithful
  exact ⟨hfaithful, hrun, hknown, hnone "x<" _ hunfinished⟩

end Renderer

end Stencil
