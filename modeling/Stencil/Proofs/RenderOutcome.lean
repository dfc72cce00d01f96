import Stencil.Render.Basic

/-!
# What a rendering gives

A renderer adds to a text and to its notes, stops at an error, and remembers the conditions it has
read. What it gives for a block tree can be told without all that: `outcome` and `outcomes` follow
the tree and put the results of its nodes one after another. The renderer's memory does not show,
because it only ever holds what a text spells (`Faithful`); this is the invariant of every step.

## Key results

- `Rendered.append_assoc`: outcomes are put together in any grouping.
- `judge_run`: what a renderer knows already does not change its judgement of a condition.
- `renderNodes_adds`: rendering nodes adds their outcome.
- `renderIn_eq_outcomes`: the outcome of a rendering.
-/

namespace Stencil

namespace Rendered

/-- Nothing rendered, and nothing reported. -/
def empty : Rendered := ⟨.ok "", []⟩

/-- One outcome and then another. After an error nothing follows. -/
def append (a b : Rendered) : Rendered :=
  match a.text with
  | .ok s => ⟨b.text.map (s ++ ·), a.notes ++ b.notes⟩
  | .error e => ⟨.error e, a.notes⟩

/-- Outcomes one after another. -/
def join (rs : List Rendered) : Rendered := rs.foldr append empty

theorem empty_append (a : Rendered) : empty.append a = a := by
  obtain ⟨text, notes⟩ := a
  cases text with
  | ok s => exact congrArg (fun t => Rendered.mk (.ok t) notes) (String.empty_append)
  | error e => rfl

theorem append_empty (a : Rendered) : a.append empty = a := by
  obtain ⟨text, notes⟩ := a
  cases text with
  | ok s =>
    show Rendered.mk (.ok (s ++ "")) (notes ++ []) = _
    rw [String.append_empty, List.append_nil]
  | error e => rfl

theorem append_assoc (a b c : Rendered) : (a.append b).append c = a.append (b.append c) := by
  obtain ⟨ta, na⟩ := a
  obtain ⟨tb, nb⟩ := b
  obtain ⟨tc, nc⟩ := c
  cases ta with
  | error e => rfl
  | ok s =>
    cases tb with
    | error e => rfl
    | ok t =>
      show Rendered.mk _ (na ++ nb ++ nc) = Rendered.mk _ (na ++ (nb ++ nc))
      rw [List.append_assoc]
      cases tc with
      | error e => rfl
      | ok u =>
        show Rendered.mk (.ok (s ++ t ++ u)) _ = Rendered.mk (.ok (s ++ (t ++ u))) _
        rw [String.append_assoc]

/-- If two outcomes give a text together, each of them has given its part. -/
theorem exists_of_text_append (a b : Rendered) (text : String) (h : (a.append b).text = .ok text) :
    ∃ s t, a.text = .ok s ∧ b.text = .ok t ∧ text = s ++ t := by
  unfold append at h
  cases ha : a.text with
  | error e =>
    rw [ha] at h
    cases h
  | ok s =>
    rw [ha] at h
    cases hb : b.text with
    | error e =>
      rw [hb] at h
      cases h
    | ok t =>
      rw [hb] at h
      exact ⟨s, t, rfl, rfl, (Except.ok.inj h).symm⟩

/-- The text of outcomes one after another is all their texts, if none of them is an error. -/
theorem text_join (rs : List Rendered) :
    (join rs).text = (rs.mapM Rendered.text).map String.join := by
  induction rs with
  | nil => rfl
  | cons r rs ih =>
    rw [List.mapM_cons]
    show (r.append (join rs)).text = _
    obtain ⟨text, notes⟩ := r
    cases text with
    | error e => rfl
    | ok s =>
      show (join rs).text.map (s ++ ·) = Except.map String.join (do
        let texts ← rs.mapM Rendered.text
        return s :: texts)
      rw [ih]
      cases rs.mapM Rendered.text with
      | error e => rfl
      | ok texts => exact congrArg Except.ok String.join_cons.symm

end Rendered

/-- What a condition with the given value gives, and what is reported of it. -/
def Condition.verdict (text : String) :
    Except Condition.Failure Bool → Except Overlong Bool × List Note
  | .ok b => (.ok b, [])
  | .error failure =>
    match failure.note? text with
    | some n => (.ok false, [n])
    | none => (.error .overlong, [])

namespace Renderer

mutual

/-- What a node gives. -/
def outcome (scope : Scope) : Template.Node → Rendered
  | .text content => ⟨.ok content, []⟩
  | .placeholder name _ => ⟨scope.lookupText name, []⟩
  | .loop item collection _ body =>
    match scope.lookup collection with
    | .list elements =>
      .join (elements.map fun element => outcomes (scope.bind item element) body)
    | _ => ⟨.ok "", [notAList collection]⟩
  | .conditional expression _ body =>
    match judgeIn scope expression with
    | (.ok true, notes) => Rendered.append ⟨.ok "", notes⟩ (outcomes scope body)
    | (.ok false, notes) => ⟨.ok "", notes⟩
    | (.error e, notes) => ⟨.error e, notes⟩

/-- What nodes give one after another. -/
def outcomes (scope : Scope) : List Template.Node → Rendered
  | [] => .empty
  | node :: rest => (outcome scope node).append (outcomes scope rest)

end

/-- What is remembered is what the texts spell. -/
def Faithful (known : Entries Condition.Expr) : Prop :=
  ∀ text e, known.get? text = some e → Condition.read text = .ok e

/-- How a step that adds an outcome to a renderer ends. What it remembers then is not told, nor how
much of the text there is if it fails. -/
inductive Added (r : Renderer) : Rendered → EStateM.Result Overlong Renderer Unit → Prop
  | ok (s : String) (notes : List Note) (known : Entries Condition.Expr) : Faithful known →
      Added r ⟨.ok s, notes⟩ (.ok () ⟨r.text ++ s, notes.reverse ++ r.notes, known⟩)
  | error (e : Overlong) (notes : List Note) (text : String) (known : Entries Condition.Expr) :
      Faithful known →
      Added r ⟨.error e, notes⟩ (.error e ⟨text, notes.reverse ++ r.notes, known⟩)

/-- The steps add the outcome to every renderer that remembers nothing wrong. -/
def Adds (m : RenderM Unit) (o : Rendered) : Prop := ∀ r, Faithful r.known → Added r o (m.run r)

theorem faithful_nil : Faithful [] := by
  intro text e h
  cases h

theorem faithful_put (known : Entries Condition.Expr) (text : String) (e : Condition.Expr)
    (hknown : Faithful known) (h : Condition.read text = .ok e) :
    Faithful (known.put text e) := by
  intro other e' hget
  -- only the text that was just read is looked up anew
  by_cases ho : other = text
  · subst ho
    rw [Entries.get?_put_self] at hget
    exact (Option.some.inj hget) ▸ h
  · rw [Entries.get?_put_of_ne known e ho] at hget
    exact hknown other e' hget

/-! ## Single steps -/

theorem emit_adds (s : String) : Adds (emit s) ⟨.ok s, []⟩ := fun r hr => .ok s [] r.known hr

theorem report_adds (n : Note) : Adds (report n) ⟨.ok "", [n]⟩ := by
  intro r hr
  have h := Added.ok (r := r) "" [n] r.known hr
  rwa [String.append_empty] at h

theorem throw_adds (e : Overlong) : Adds (throw e) ⟨.error e, []⟩ := fun r hr =>
  .error e [] r.text r.known hr

theorem pure_adds : Adds (pure ()) .empty := by
  intro r hr
  have h := Added.ok (r := r) "" [] r.known hr
  rwa [String.append_empty] at h

/-- When a renderer has added an outcome, steps that add another one go on from there. -/
theorem added_append (r r' : Renderer) (a b : Rendered) (m : RenderM Unit)
    (ha : Added r a (.ok () r')) (hm : Adds m b) : Added r (a.append b) (m.run r') := by
  cases ha with
  | ok s notes known hk =>
    have hb := hm ⟨r.text ++ s, notes.reverse ++ r.notes, known⟩ hk
    revert hb
    generalize m.run _ = result
    intro hb
    cases hb with
    | ok t notes' known' hk' =>
      rw [String.append_assoc, ← List.append_assoc, ← List.reverse_append]
      exact .ok (s ++ t) (notes ++ notes') known' hk'
    | error e notes' text known' hk' =>
      rw [← List.append_assoc, ← List.reverse_append]
      exact .error e (notes ++ notes') text known' hk'

/-- Steps one after another add their outcomes one after another. -/
theorem bind_adds (m n : RenderM Unit) (a b : Rendered) (hm : Adds m a) (hn : Adds n b) :
    Adds (m >>= fun _ => n) (a.append b) := by
  intro r hr
  have ha : Added r a (m r) := hm r hr
  show Added r _ (EStateM.bind m (fun _ => n) r)
  unfold EStateM.bind
  cases hres : m r with
  | ok u r' =>
    rw [hres] at ha
    exact added_append r r' a b n ha hn
  | error e r' =>
    -- after an error the second steps are not made
    rw [hres] at ha
    cases ha with
    | error e notes text known hk => exact .error e notes text known hk

/-- Steps for the elements of a list add their outcomes in order. -/
theorem forM_adds {α : Type} (f : α → RenderM Unit) (o : α → Rendered) (xs : List α)
    (h : ∀ x ∈ xs, Adds (f x) (o x)) : Adds (xs.forM f) (.join (xs.map o)) := by
  induction xs with
  | nil => exact pure_adds
  | cons x xs ih =>
    -- the first element, and then the others
    refine bind_adds (f x) (xs.forM f) (o x) _ (h x List.mem_cons_self) ?_
    exact ih fun y hy => h y (List.mem_cons_of_mem x hy)

/-! ## Conditions -/

/-- What a renderer that judged a condition goes on from. -/
def judged (r : Renderer) (known : Entries Condition.Expr) :
    Except Overlong Bool × List Note → EStateM.Result Overlong Renderer Bool
  | (.ok b, notes) => .ok b ⟨r.text, notes.reverse ++ r.notes, known⟩
  | (.error e, notes) => .error e ⟨r.text, notes.reverse ++ r.notes, known⟩

theorem settle_run (text : String) (v : Except Condition.Failure Bool) (r : Renderer) :
    (settle text v).run r = judged r r.known (Condition.verdict text v) := by
  cases v with
  | ok b => rfl
  | error failure =>
    unfold settle Condition.verdict
    dsimp only
    cases failure.note? text <;> rfl

/-- A condition that is remembered is judged as one that is read. -/
theorem judge_run_eq (scope : Scope) (text : String) (r : Renderer) (hr : Faithful r.known) :
    ∃ known, Faithful known ∧ (judge scope text).run r =
      judged r known (Condition.verdict text (Condition.evaluate scope.lookup text)) := by
  unfold Condition.evaluate
  cases hget : r.known.get? text with
  | some e =>
    -- what is remembered is what would be read
    refine ⟨r.known, hr, ?_⟩
    have hrun : (judge scope text).run r = (settle text (e.holds scope.lookup)).run r := by
      simp only [judge, EStateM.run_bind, EStateM.run_get, hget]
    rw [hrun, hr text e hget]
    exact settle_run text _ r
  | none =>
    cases hread : Condition.read text with
    | error failure =>
      have hrun : (judge scope text).run r = (settle text (.error failure)).run r := by
        simp only [judge, EStateM.run_bind, EStateM.run_get, hget, hread]
      rw [hrun]
      exact ⟨r.known, hr, settle_run text _ r⟩
    | ok e =>
      -- the expression is remembered before it is judged
      have hrun : (judge scope text).run r =
          (settle text (e.holds scope.lookup)).run ⟨r.text, r.notes, r.known.put text e⟩ := by
        simp only [judge, EStateM.run_bind, EStateM.run_get, hget, hread]
        rfl
      rw [hrun]
      exact ⟨r.known.put text e, faithful_put r.known text e hr hread, settle_run text _ _⟩

/-- The judgement of a condition, by its value. -/
theorem judgeIn_eq_verdict (scope : Scope) (text : String) :
    judgeIn scope text = Condition.verdict text (Condition.evaluate scope.lookup text) := by
  obtain ⟨known, -, hrun⟩ := judge_run_eq scope text .start faithful_nil
  unfold judgeIn
  rw [hrun]
  generalize Condition.verdict text _ = v
  obtain ⟨e | b, notes⟩ := v
  · show (_, (notes.reverse ++ []).reverse) = _
    rw [List.append_nil, List.reverse_reverse]
  · show (_, (notes.reverse ++ []).reverse) = _
    rw [List.append_nil, List.reverse_reverse]

/-- The steps judge a condition: they end as the verdict says, and remember nothing wrong. -/
def Judges (m : RenderM Bool) (verdict : Except Overlong Bool × List Note) : Prop :=
  ∀ r, Faithful r.known → ∃ known, Faithful known ∧ m.run r = judged r known verdict

/-- What a renderer knows already does not change its judgement of a condition. -/
theorem judge_run (scope : Scope) (text : String) :
    Judges (judge scope text) (judgeIn scope text) := by
  intro r hr
  rw [judgeIn_eq_verdict]
  exact judge_run_eq scope text r hr

/-- A conditional adds its body's outcome if its condition holds. -/
theorem conditional_adds (j : RenderM Bool) (verdict : Except Overlong Bool × List Note)
    (m : RenderM Unit) (o : Rendered) (hm : Adds m o) :
    Judges j verdict → Adds (do if ← j then m) (match verdict with
      | (.ok true, notes) => Rendered.append ⟨.ok "", notes⟩ o
      | (.ok false, notes) => ⟨.ok "", notes⟩
      | (.error e, notes) => ⟨.error e, notes⟩) := by
  intro hj r hr
  obtain ⟨known, hk, hrun⟩ := hj r hr
  show Added r _ (EStateM.bind j _ r)
  unfold EStateM.bind
  have hrun' : j r = judged r known verdict := hrun
  rw [hrun']
  obtain ⟨e | b, notes⟩ := verdict
  · exact .error e notes r.text known hk
  · -- a condition adds nothing to the text
    have hok : Added r ⟨.ok "", notes⟩ (.ok () ⟨r.text, notes.reverse ++ r.notes, known⟩) := by
      have h := Added.ok (r := r) "" notes known hk
      rwa [String.append_empty] at h
    cases b with
    | false => exact hok
    | true =>
      exact added_append r _ ⟨.ok "", notes⟩ o m hok hm

/-! ## Whole trees -/

mutual

/-- Rendering a node adds its outcome. -/
theorem renderNode_adds (scope : Scope) (node : Template.Node) :
    Adds (renderNode scope node) (outcome scope node) := by
  cases node with
  | text content => exact emit_adds content
  | placeholder name offset =>
    unfold renderNode outcome
    cases scope.lookupText name with
    | ok s => exact emit_adds s
    | error e => exact throw_adds e
  | loop item collection offset body =>
    unfold renderNode outcome
    cases scope.lookup collection with
    | list elements =>
      exact forM_adds _ _ elements fun element _ => renderNodes_adds (scope.bind item element) body
    | _ => exact report_adds (notAList collection)
  | conditional expression offset body =>
    unfold renderNode outcome
    exact conditional_adds _ _ _ _ (renderNodes_adds scope body) (judge_run scope expression)

/-- Rendering nodes adds their outcome. -/
theorem renderNodes_adds (scope : Scope) (nodes : List Template.Node) :
    Adds (renderNodes scope nodes) (outcomes scope nodes) := by
  cases nodes with
  | nil => exact pure_adds
  | cons node rest =>
    unfold renderNodes outcomes
    exact bind_adds _ _ _ _ (renderNode_adds scope node) (renderNodes_adds scope rest)

end

/-- What a renderer has done in the end: what it had done before, and the outcome that was added. -/
theorem ofRun_of_added (r : Renderer) (o : Rendered)
    (result : EStateM.Result Overlong Renderer Unit) (h : Added r o result) :
    Rendered.ofRun result = Rendered.append ⟨.ok r.text, r.notes.reverse⟩ o := by
  cases h with
  | ok s notes known =>
    show Rendered.mk (.ok (r.text ++ s)) (notes.reverse ++ r.notes).reverse = _
    rw [List.reverse_append, List.reverse_reverse]
    rfl
  | error e notes text known =>
    show Rendered.mk (.error e) (notes.reverse ++ r.notes).reverse = _
    rw [List.reverse_append, List.reverse_reverse]
    rfl

end Renderer

/-- The outcome of a rendering. -/
theorem renderIn_eq_outcomes (scope : Scope) (nodes : List Template.Node) :
    renderIn scope nodes = Renderer.outcomes scope nodes := by
  have h := Renderer.renderNodes_adds scope nodes .start Renderer.faithful_nil
  -- a renderer that has done nothing has neither text nor notes
  rw [renderIn, Renderer.ofRun_of_added _ _ _ h]
  exact Rendered.empty_append _

end Stencil
