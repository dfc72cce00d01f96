import Stencil.Proofs.BuilderSteps

/-!
# Well nested tokens inside a block

Tokens that have no problem of nesting by themselves do not look at the blocks that are open around
them: each closing marker finds the block that it ends among the tokens. So between the two markers
of a block they are read as they are read alone, and their nodes are the body of that block.

## Key results

- `step_within`: a step without a problem, made with more blocks open around it.
- `foldl_read_within`: a reading without a problem, in the same situation.
- `foldl_read_block`: the markers of a block around tokens that add nodes to its body.
- `ofTokens_block`: the tree of well nested tokens between the markers of a block.
-/

namespace Stencil.Template

namespace Builder

/-- The builder with more blocks open around its own. -/
def within (outer : List OpenBlock) (b : Builder) : Builder :=
  ⟨b.body, b.stack ++ outer, b.problems⟩

/-- A step without a problem does not look at the blocks around. -/
theorem step_within (outer : List OpenBlock) (b b' : Builder) (t : Token) (h : Step b t b')
    (hproblems : b'.problems = []) : Step (b.within outer) t (b'.within outer) := by
  cases h with
  | leaf hd => exact .leaf hd
  | opening head hd => exact .opening head hd
  | closing kind inner top rest hd hstack hinner htop =>
    -- the block that is ended is one of the builder's own
    refine .closing kind inner top (rest ++ outer) hd ?_ hinner htop
    show b.stack ++ outer = _
    rw [hstack, List.append_assoc, List.cons_append]
  | stray kind => cases hproblems

/-- A reading without a problem does not look at the blocks around. -/
theorem foldl_read_within (outer : List OpenBlock) (b : Builder) (ts : List Token)
    (hproblems : (ts.foldl read b).problems = []) :
    ts.foldl read (b.within outer) = (ts.foldl read b).within outer := by
  induction ts generalizing b with
  | nil => rfl
  | cons t ts ih =>
    rw [List.foldl_cons] at hproblems
    have hnow := problems_eq_nil_of_foldl (b.read t) ts hproblems
    have hstep := step_within outer b _ t (read_step b t) hnow
    rw [List.foldl_cons, List.foldl_cons, ← eq_read_of_step _ _ _ hstep]
    exact ih (b.read t) hproblems

/-- A reading without a problem ends with all blocks ended. -/
theorem foldl_read_of_problems_eq_nil (ts : List Token)
    (hproblems : (Tree.ofTokens ts).problems = []) :
    ts.foldl read .start = ⟨(Tree.ofTokens ts).nodes.reverse, [], []⟩ := by
  unfold Tree.ofTokens at hproblems ⊢
  generalize ts.foldl read .start = b at hproblems ⊢
  obtain ⟨body, stack, problems⟩ := b
  dsimp only at hproblems ⊢
  have hend := unwind_stack ⟨body, stack, problems⟩
  dsimp only at hend
  rw [hend] at hproblems ⊢
  -- an open block would be a problem at the end
  rw [List.reverse_eq_nil_iff, List.append_eq_nil_iff, List.reverse_eq_nil_iff,
    List.map_eq_nil_iff] at hproblems
  obtain ⟨rfl, rfl⟩ := hproblems
  rw [List.reverse_reverse]
  rfl

/-! ## A block -/

/-- Adds nodes to the innermost open body, the last one first. -/
def addAll (b : Builder) (nodes : List Node) : Builder := ⟨nodes ++ b.body, b.stack, b.problems⟩

/-- The two markers of a block around tokens that add nodes to its body. -/
theorem foldl_read_block (b : Builder) (first last : Token) (head : Head) (ts : List Token)
    (nodes : List Node) (hfirst : first.directive? = some (.opening head))
    (hlast : last.directive? = some (.closing head.kind))
    (hts : ts.foldl read (b.enter first head) = (b.enter first head).addAll nodes) :
    (first :: (ts ++ [last])).foldl read b = b.add (.block first.offset nodes.reverse head) := by
  have henter : b.read first = b.enter first head := by rw [read_eq, hfirst]
  rw [List.foldl_cons, henter, List.foldl_append, hts]
  -- the closing marker finds the block at once
  have hstep := Step.closing (b := (b.enter first head).addAll nodes) head.kind []
    ⟨first, head, b.body⟩ b.stack hlast rfl (by simp) rfl
  rw [List.foldl_cons, List.foldl_nil, ← eq_read_of_step _ _ _ hstep]
  simp [closed, merge, addAll, enter, add]

end Builder

/-- The tree of well nested tokens between the two markers of a block. -/
theorem ofTokens_block (first last : Token) (head : Head) (ts : List Token)
    (hfirst : first.directive? = some (.opening head))
    (hlast : last.directive? = some (.closing head.kind))
    (hproblems : (Tree.ofTokens ts).problems = []) :
    Tree.ofTokens (first :: (ts ++ [last])) =
      ⟨[.block first.offset (Tree.ofTokens ts).nodes head], []⟩ := by
  have halone := Builder.foldl_read_of_problems_eq_nil ts hproblems
  -- inside the block, the tokens are read as they are alone
  have hinner : ts.foldl Builder.read (Builder.start.enter first head) =
      (Builder.start.enter first head).addAll (Tree.ofTokens ts).nodes.reverse := by
    have hwithin := Builder.foldl_read_within [⟨first, head, []⟩] .start ts (by rw [halone])
    rw [halone] at hwithin
    show _ = Builder.mk (_ ++ []) _ _
    rw [List.append_nil]
    exact hwithin
  have hblock := Builder.foldl_read_block .start first last head ts _ hfirst hlast hinner
  rw [Tree.ofTokens, hblock, List.reverse_reverse]
  rfl

end Stencil.Template
