import Stencil.Proofs.BuilderSteps

/-!
# A marker that is worded otherwise

The tree of a list of tokens looks at what a token holds. It looks at the source text of a token
only to give it back, when the token is a directive that is no marker of a block in the end. So two
lists of tokens that differ in the source text of one token have the same problems, and the same
nodes but for at most one text.

Two builders that read such lists are run side by side. Where they differ is told by one place
(`OpenSameBut`): it is in a body, or it is the marker of an open block, which is turned into text or
forgotten when that block ends.

## Key results

- `read_agrees`, `reword_agrees`: the two readings of one token, which is the same or worded
  otherwise.
- `foldl_agrees`, `unwind_agrees`: the same for a run and for the end of a reading.
- `ofTokens_reword`: the trees of two such lists.
-/

namespace Stencil.Template

/-- The token with another source text. -/
def Token.reword (t : Token) (raw : String) : Token := ⟨⟨t.shape, t.value, raw⟩, t.place⟩

/-- The nodes are the same but for at most one text, which is `x` in the first ones and `y` in the
second ones. -/
inductive SameBut (x y : String) : List Node → List Node → Prop
  | refl (nodes : List Node) : SameBut x y nodes nodes
  | text (before after : List Node) :
      SameBut x y (before ++ .text x :: after) (before ++ .text y :: after)
  | block (before after : List Node) (offset : Nat) (head : Head) {body body' : List Node} :
      SameBut x y body body' →
      SameBut x y (before ++ .block offset body head :: after)
        (before ++ .block offset body' head :: after)

namespace SameBut

variable {x y : String} {nodes nodes' : List Node}

theorem append (h : SameBut x y nodes nodes') (before after : List Node) :
    SameBut x y (before ++ nodes ++ after) (before ++ nodes' ++ after) := by
  cases h with
  | refl => exact .refl _
  | text us vs => simpa using SameBut.text (before ++ us) (vs ++ after)
  | block us vs offset head hbody =>
    simpa using SameBut.block (before ++ us) (vs ++ after) offset head hbody

/-- A body is built with its last node first. -/
theorem reverse (h : SameBut x y nodes nodes') : SameBut x y nodes.reverse nodes'.reverse := by
  cases h with
  | refl => exact .refl _
  | text us vs => simpa using SameBut.text vs.reverse us.reverse
  | block us vs offset head hbody =>
    simpa using SameBut.block vs.reverse us.reverse offset head hbody

end SameBut

namespace Builder

/-- The innermost body and the open blocks around it are the same but for at most one text, which
may still be the source text of the marker of an open block. -/
inductive OpenSameBut (x y : String) :
    List Node → List OpenBlock → List Node → List OpenBlock → Prop
  | body (stack : List OpenBlock) {body body' : List Node} : SameBut x y body body' →
      OpenSameBut x y body stack body' stack
  | marker (body : List Node) (t : Token) (head : Head) (before : List Node)
      (stack : List OpenBlock) :
      OpenSameBut x y body (⟨t.reword x, head, before⟩ :: stack)
        body (⟨t.reword y, head, before⟩ :: stack)
  | outer (body : List Node) (t : Token) (head : Head) {before before' : List Node}
      {stack stack' : List OpenBlock} : OpenSameBut x y before stack before' stack' →
      OpenSameBut x y body (⟨t, head, before⟩ :: stack) body (⟨t, head, before'⟩ :: stack')

/-- The builders have found the same problems, and the same nodes but for at most one text. -/
structure Agrees (x y : String) (b c : Builder) : Prop where
  problems : b.problems = c.problems
  nodes : OpenSameBut x y b.body b.stack c.body c.stack

variable {x y : String}

namespace OpenSameBut

variable {body body' : List Node} {stack stack' rest : List OpenBlock} {top : OpenBlock}

theorem append (h : OpenSameBut x y body stack body' stack') (nodes : List Node) :
    OpenSameBut x y (nodes ++ body) stack (nodes ++ body') stack' := by
  cases h with
  | body stack h => simpa using OpenSameBut.body stack (h.append nodes [])
  | marker body t head before stack => exact .marker (nodes ++ body) t head before stack
  | outer body t head h => exact .outer (nodes ++ body) t head h

/-- The open blocks have the same heads. -/
theorem map_head (h : OpenSameBut x y body stack body' stack') :
    stack.map (·.head) = stack'.map (·.head) := by
  induction h with
  | body => rfl
  | marker => rfl
  | outer body t head h ih => rw [List.map_cons, List.map_cons, ih]

/-- All that can be done with the innermost open block: whether it is given up or ended, the bodies
around it are the same again but for at most one text. -/
theorem top_cases (h : OpenSameBut x y body (top :: rest) body' stack') :
    ∃ top' rest', stack' = top' :: rest' ∧ top'.head = top.head ∧
      top'.token.place = top.token.place ∧
      OpenSameBut x y (body ++ .text top.token.raw :: top.before) rest
        (body' ++ .text top'.token.raw :: top'.before) rest' ∧
      OpenSameBut x y (.block top.token.offset body.reverse top.head :: top.before) rest
        (.block top'.token.offset body'.reverse top'.head :: top'.before) rest' := by
  cases h with
  | body _ h =>
    have hgiven := h.append [] (.text top.token.raw :: top.before)
    have hended := SameBut.block [] top.before top.token.offset top.head h.reverse
    exact ⟨top, rest, rfl, rfl, rfl, .body rest hgiven, .body rest hended⟩
  | marker _ t head before =>
    -- the marker is the one text, or it is forgotten
    exact ⟨_, rest, rfl, rfl, rfl, .body rest (.text body before), .body rest (.refl _)⟩
  | outer _ t head h =>
    have hgiven := h.append (body ++ [.text t.raw])
    have hended := h.append [.block t.offset body.reverse head]
    rw [List.append_assoc, List.append_assoc] at hgiven
    exact ⟨_, _, rfl, rfl, rfl, hgiven, hended⟩

end OpenSameBut

namespace Agrees

variable {b c : Builder}

theorem refl (b : Builder) : Agrees x y b b := ⟨rfl, .body b.stack (.refl b.body)⟩

theorem add (h : Agrees x y b c) (node : Node) : Agrees x y (b.add node) (c.add node) :=
  ⟨h.problems, h.nodes.append [node]⟩

theorem report (h : Agrees x y b c) (d : Diagnostic) : Agrees x y (b.report d) (c.report d) :=
  ⟨congrArg (d :: ·) h.problems, h.nodes⟩

theorem enter (h : Agrees x y b c) (t : Token) (head : Head) :
    Agrees x y (b.enter t head) (c.enter t head) :=
  ⟨h.problems, .outer [] t head h.nodes⟩

theorem hasOpen (h : Agrees x y b c) (kind : BlockKind) : b.hasOpen kind = c.hasOpen kind := by
  have hheads := congrArg (List.any · (·.kind = kind)) h.nodes.map_head
  rwa [List.any_map, List.any_map] at hheads

/-- No block is open in one of the builders without one in the other. -/
theorem stack_eq_nil (h : Agrees x y b c) (hstack : b.stack = []) : c.stack = [] := by
  have hheads := h.nodes.map_head
  rw [hstack] at hheads
  exact List.map_eq_nil_iff.1 hheads.symm

/-- The innermost open block is the same in both builders, and they agree when it is given up with a
problem about it, and when it is ended. -/
theorem top_cases (h : Agrees x y b c) {top : OpenBlock} {rest : List OpenBlock}
    (hstack : b.stack = top :: rest) :
    ∃ top' rest', c.stack = top' :: rest' ∧ top'.head = top.head ∧
      (∀ problem, Agrees x y (b.report ⟨problem, top.token.place⟩).degrade
        (c.report ⟨problem, top'.token.place⟩).degrade) ∧
      Agrees x y b.closeTop c.closeTop := by
  have hnodes := h.nodes
  rw [hstack] at hnodes
  obtain ⟨top', rest', hstack', hhead, hplace, hgiven, hended⟩ := hnodes.top_cases
  refine ⟨top', rest', hstack', hhead, fun problem => ?_, ?_⟩
  · rw [Builder.report, Builder.report, degrade, degrade, hstack, hstack', hplace]
    exact ⟨congrArg (⟨problem, top.token.place⟩ :: ·) h.problems, hgiven⟩
  · rw [closeTop, closeTop, hstack, hstack']
    exact ⟨h.problems, hended⟩

end Agrees

/-- The innermost open block is gone when it has been given up. -/
theorem stack_degrade (b : Builder) (d : Diagnostic) (top : OpenBlock) (rest : List OpenBlock)
    (h : b.stack = top :: rest) : (b.report d).degrade.stack = rest := by
  rw [report, degrade, h]

theorem closeNearest_agrees {b c : Builder} (kind : BlockKind) (h : Agrees x y b c) :
    Agrees x y (b.closeNearest kind b.stack) (c.closeNearest kind c.stack) := by
  -- on the open blocks, which are given up one by one in both builders
  induction hstack : b.stack generalizing b c with
  | nil =>
    rw [h.stack_eq_nil hstack]
    exact h
  | cons top rest ih =>
    obtain ⟨top', rest', hstack', hhead, hgiven, hended⟩ := h.top_cases hstack
    rw [hstack', closeNearest, closeNearest, hhead]
    split
    · exact hended
    · have hrest := ih (hgiven (.crossed top.head.kind kind)) (stack_degrade b _ top rest hstack)
      rwa [stack_degrade c _ top' rest' hstack'] at hrest

/-! ## Reading on -/

/-- Builders that agree do so when they have read one more token. -/
theorem read_agrees {b c : Builder} (t : Token) (h : Agrees x y b c) :
    Agrees x y (b.read t) (c.read t) := by
  rw [read_eq, read_eq]
  cases t.directive? with
  | none => exact h.add t.leaf
  | some directive =>
    cases directive with
    | opening head => exact h.enter t head
    | closing kind =>
      show Agrees x y (b.close t kind) (c.close t kind)
      rw [close, close, h.hasOpen kind]
      split
      · exact closeNearest_agrees kind h
      · exact (h.report _).add _

/-- Builders that read a token which is worded otherwise agree. -/
theorem reword_agrees (b : Builder) (t : Token) :
    Agrees x y (b.read (t.reword x)) (b.read (t.reword y)) := by
  have hdirective : ∀ raw, (t.reword raw).directive? = t.directive? := fun _ => rfl
  have htext : ∀ c : Builder, Agrees x y (c.add (.text x)) (c.add (.text y)) := fun c =>
    ⟨rfl, .body c.stack (.text [] c.body)⟩
  rw [read_eq, read_eq, hdirective, hdirective]
  cases t.directive? with
  | none =>
    -- only a directive is given back as it is written
    show Agrees x y (b.add (t.reword x).leaf) (b.add (t.reword y).leaf)
    obtain ⟨⟨shape, value, raw⟩, place⟩ := t
    cases shape with
    | directive => exact htext b
    | _ => exact .refl _
  | some directive =>
    cases directive with
    | opening head => exact ⟨rfl, .marker [] t head b.body b.stack⟩
    | closing kind =>
      show Agrees x y (b.close (t.reword x) kind) (b.close (t.reword y) kind)
      rw [close, close]
      split
      · exact .refl _
      · exact htext _

theorem foldl_agrees {b c : Builder} (ts : List Token) (h : Agrees x y b c) :
    Agrees x y (ts.foldl read b) (ts.foldl read c) := by
  induction ts generalizing b c with
  | nil => exact h
  | cons t ts ih => exact ih (read_agrees t h)

theorem unwind_agrees {b c : Builder} (h : Agrees x y b c) :
    Agrees x y (b.unwind b.stack) (c.unwind c.stack) := by
  induction hstack : b.stack generalizing b c with
  | nil =>
    rw [h.stack_eq_nil hstack]
    exact h
  | cons top rest ih =>
    obtain ⟨top', rest', hstack', hhead, hgiven, -⟩ := h.top_cases hstack
    rw [hstack', unwind, unwind, hhead]
    have hrest := ih (hgiven (.unclosed top.head.kind)) (stack_degrade b _ top rest hstack)
    rwa [stack_degrade c _ top' rest' hstack'] at hrest

end Builder

/-- The trees of tokens of which one is worded in two ways: they have the same problems, and the
same nodes but for at most one text, which is then that token as it is worded. -/
theorem ofTokens_reword (ts us : List Token) (t : Token) (x y : String) :
    (Tree.ofTokens (ts ++ t.reword x :: us)).problems =
        (Tree.ofTokens (ts ++ t.reword y :: us)).problems ∧
      SameBut x y (Tree.ofTokens (ts ++ t.reword x :: us)).nodes
        (Tree.ofTokens (ts ++ t.reword y :: us)).nodes := by
  have hread := Builder.foldl_agrees us
    (Builder.reword_agrees (x := x) (y := y) (ts.foldl Builder.read .start) t)
  rw [← List.foldl_cons, ← List.foldl_cons, ← List.foldl_append, ← List.foldl_append] at hread
  obtain ⟨hproblems, hnodes⟩ := Builder.unwind_agrees hread
  constructor
  · exact congrArg List.reverse hproblems
  · -- no block is open any more, so the difference is in the body
    have hclosed : ∀ b : Builder, (b.unwind b.stack).stack = [] := fun b => by
      rw [Builder.unwind_stack]
    rw [hclosed, hclosed] at hnodes
    cases hnodes with
    | body _ h => exact h.reverse

end Stencil.Template
