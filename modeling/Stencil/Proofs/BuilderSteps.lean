import Stencil.Template.Block

/-!
# What a builder does with a token

The lenient builder of the block tree, told step by step. `Builder.Step` has one constructor for
each thing that a token can do: it is a leaf, it opens a block, it closes the nearest open block of
its kind past the blocks inside that one, or it is a closing marker that no block waits for. All
later facts about readings are derived from these four cases and from `unwind_stack`, the end of a
reading.

## Key results

- `closeNearest_stack`: what ending an open block does, the blocks inside it being problems.
- `read_step`, `eq_read_of_step`: a token is read in one of the four ways, and in no other.
- `unwind_stack`: what the end of a reading does.
-/

namespace Stencil.Template

/-- The node of a token that opens and closes nothing. -/
def Token.leaf (t : Token) : Node :=
  match t.shape with
  | .placeholder => .placeholder t.value t.offset
  | .directive => .text t.raw
  | _ => .text t.value

/-- Text is no directive. -/
theorem Token.directive?_of_isText (t : Token) (h : t.shape.isText = true) :
    t.directive? = none := by
  unfold directive?
  cases hshape : t.shape with
  | directive => rw [hshape] at h; cases h
  | _ => rfl

namespace Builder

/-- The body that remains when the given open blocks are given up, the innermost first. -/
def merge (body : List Node) : List OpenBlock → List Node
  | [] => body
  | top :: rest => merge (body ++ .text top.token.raw :: top.before) rest

/-- The problem of a block that is open when the block of the kind `outer` around it ends. -/
def crossing (outer : BlockKind) (top : OpenBlock) : Diagnostic :=
  ⟨.crossed top.head.kind outer, top.token.place⟩

/-- The problem of a block that is open at the end. -/
def unclosing (top : OpenBlock) : Diagnostic := ⟨.unclosed top.head.kind, top.token.place⟩

/-- The builder after a block has been ended, given what was in the stack inside and outside it. -/
def closed (b : Builder) (kind : BlockKind) (inner : List OpenBlock) (top : OpenBlock)
    (outer : List OpenBlock) : Builder :=
  ⟨.block top.token.offset (merge b.body inner).reverse top.head :: top.before, outer,
    (inner.map (crossing kind)).reverse ++ b.problems⟩

/-- How a builder reads a token. -/
inductive Step (b : Builder) (t : Token) : Builder → Prop
  | leaf : t.directive? = none → Step b t (b.add t.leaf)
  | opening (head : Head) : t.directive? = some (.opening head) → Step b t (b.enter t head)
  | closing (kind : BlockKind) (inner : List OpenBlock) (top : OpenBlock)
      (outer : List OpenBlock) :
      t.directive? = some (.closing kind) → b.stack = inner ++ top :: outer →
      (∀ f ∈ inner, f.head.kind ≠ kind) → top.head.kind = kind →
      Step b t (b.closed kind inner top outer)
  | stray (kind : BlockKind) : t.directive? = some (.closing kind) →
      (∀ f ∈ b.stack, f.head.kind ≠ kind) →
      Step b t ((b.report ⟨.stray kind, t.place⟩).add (.text t.raw))

theorem hasOpen_iff (b : Builder) (kind : BlockKind) :
    b.hasOpen kind = true ↔ ∃ f ∈ b.stack, f.head.kind = kind := by
  simp [hasOpen]

/-- Ending an open block gives up the blocks inside it. -/
theorem closeNearest_stack (kind : BlockKind) (b : Builder) (inner : List OpenBlock)
    (top : OpenBlock) (outer : List OpenBlock) (hstack : b.stack = inner ++ top :: outer)
    (hinner : ∀ f ∈ inner, f.head.kind ≠ kind) (htop : top.head.kind = kind) :
    b.closeNearest kind b.stack = b.closed kind inner top outer := by
  -- on the blocks inside, with the builder in which they are given up one by one
  induction inner generalizing b with
  | nil =>
    rw [hstack, List.nil_append, closeNearest, if_pos htop, closeTop, hstack]
    rfl
  | cons f inner ih =>
    have hf : ¬ f.head.kind = kind := hinner f List.mem_cons_self
    rw [hstack, List.cons_append, closeNearest, if_neg hf]
    -- the innermost block is given up, and the rest is as before
    have hdegrade : (b.report (crossing kind f)).degrade =
        ⟨b.body ++ .text f.token.raw :: f.before, inner ++ top :: outer,
          crossing kind f :: b.problems⟩ := by
      rw [report, degrade, hstack, List.cons_append]
    have hrest := ih (b.report (crossing kind f)).degrade (by rw [hdegrade])
      fun g hg => hinner g (List.mem_cons_of_mem f hg)
    rw [hdegrade] at hrest
    show closeNearest kind (b.report (crossing kind f)).degrade _ = _
    rw [hdegrade, hrest, closed, closed, merge, List.map_cons, List.reverse_cons,
      List.append_assoc, List.singleton_append]

/-- A stack with a block of a kind in it is cut at the innermost such block. -/
private theorem exists_nearest (kind : BlockKind) (stack : List OpenBlock)
    (h : stack.any (·.head.kind = kind) = true) :
    ∃ inner top outer, stack = inner ++ top :: outer ∧ (∀ f ∈ inner, f.head.kind ≠ kind) ∧
      top.head.kind = kind := by
  induction stack with
  | nil => cases h
  | cons f rest ih =>
    by_cases hf : f.head.kind = kind
    · exact ⟨[], f, rest, rfl, by simp, hf⟩
    · rw [List.any_cons, decide_eq_false hf, Bool.false_or] at h
      obtain ⟨inner, top, outer, rfl, hinner, htop⟩ := ih h
      refine ⟨f :: inner, top, outer, rfl, ?_, htop⟩
      intro g hg
      rcases List.mem_cons.1 hg with rfl | hg
      · exact hf
      · exact hinner g hg

/-- Reading a token, by the directive that it is. -/
theorem read_eq (b : Builder) (t : Token) :
    b.read t = match t.directive? with
      | some (.opening head) => b.enter t head
      | some (.closing kind) => b.close t kind
      | none => b.add t.leaf := by
  -- only a directive can be other than a leaf
  unfold read Token.directive? Token.leaf
  cases t.shape with
  | directive =>
    cases Directive.classify t.value with
    | none => rfl
    | some d => cases d <;> rfl
  | _ => rfl

/-- A token is read in one of the four ways. -/
theorem read_step (b : Builder) (t : Token) : Step b t (b.read t) := by
  rw [read_eq]
  split
  · next head hd => exact .opening head hd
  · next kind hd =>
    unfold close
    split
    · next h =>
      obtain ⟨inner, top, outer, hstack, hinner, htop⟩ := exists_nearest kind b.stack h
      rw [closeNearest_stack kind b inner top outer hstack hinner htop]
      exact .closing kind inner top outer hd hstack hinner htop
    · next h =>
      -- a block of the kind in the stack would be an open one
      exact .stray kind hd fun f hf hk => h ((hasOpen_iff b kind).2 ⟨f, hf, hk⟩)
  · next hd => exact .leaf hd

/-- A token is read in no other way. -/
theorem eq_read_of_step (b b' : Builder) (t : Token) (h : Step b t b') : b' = b.read t := by
  rw [read_eq]
  cases h with
  | leaf hd => rw [hd]
  | opening head hd => rw [hd]
  | closing kind inner top outer hd hstack hinner htop =>
    rw [hd]
    have hopen : b.hasOpen kind = true :=
      (hasOpen_iff b kind).2 ⟨top, by simp [hstack], htop⟩
    show _ = b.close t kind
    rw [close, if_pos hopen, closeNearest_stack kind b inner top outer hstack hinner htop]
  | stray kind hd hstack =>
    rw [hd]
    have hopen : ¬ b.hasOpen kind = true := by
      rw [hasOpen_iff]
      rintro ⟨f, hf, hk⟩
      exact hstack f hf hk
    show _ = b.close t kind
    rw [close, if_neg hopen]

/-- The end of a reading gives up all blocks that are still open. -/
theorem unwind_stack (b : Builder) :
    b.unwind b.stack =
      ⟨merge b.body b.stack, [], (b.stack.map unclosing).reverse ++ b.problems⟩ := by
  obtain ⟨body, stack, problems⟩ := b
  induction stack generalizing body problems with
  | nil => rfl
  | cons top rest ih =>
    -- the innermost block is given up, and the rest is unwound from there
    show unwind ⟨body ++ .text top.token.raw :: top.before, rest, unclosing top :: problems⟩ rest
      = _
    rw [ih, merge, List.map_cons, List.reverse_cons, List.append_assoc, List.singleton_append]

/-! ## Problems add up -/

/-- A step forgets no problem. -/
theorem problems_suffix_of_step (b b' : Builder) (t : Token) (h : Step b t b') :
    b.problems <:+ b'.problems := by
  cases h with
  | leaf => exact List.suffix_refl _
  | opening => exact List.suffix_refl _
  | closing => exact List.suffix_append _ _
  | stray => exact List.suffix_cons _ _

/-- A reading forgets no problem. -/
theorem problems_suffix_foldl (b : Builder) (ts : List Token) :
    b.problems <:+ (ts.foldl read b).problems := by
  induction ts generalizing b with
  | nil => exact List.suffix_refl _
  | cons t ts ih => exact (problems_suffix_of_step b _ t (read_step b t)).trans (ih (b.read t))

/-- A problem of a step would still be there at the end. -/
theorem problems_eq_nil_of_foldl (b : Builder) (ts : List Token)
    (h : (ts.foldl read b).problems = []) : b.problems = [] := by
  have hsuffix := problems_suffix_foldl b ts
  rw [h] at hsuffix
  exact List.suffix_nil.1 hsuffix

/-- The end of a reading forgets no problem. -/
theorem problems_suffix_unwind (b : Builder) : b.problems <:+ (b.unwind b.stack).problems := by
  rw [unwind_stack]
  exact List.suffix_append _ _

end Builder

end Stencil.Template
