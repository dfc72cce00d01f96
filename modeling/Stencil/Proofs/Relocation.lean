import Stencil.Proofs.BuilderSteps
import Stencil.Proofs.RenderOutcome
import Stencil.Proofs.TokenTiling

/-!
# Tokens at other places

Where its tokens stand does not matter to the tree of a template, but for the offsets that the nodes
and the problems have. So tokens that are moved give the moved tree; and a rendering does not look
at offsets at all.

Tokens are moved by any change `f` of offsets. Their lines and columns are forgotten, so that tokens
can be compared that stand in different templates.

## Key results

- `step_relocate`: a step of the builder, made with everything moved.
- `map_relocate_locate`: when tokens at different places are moved to the same offsets.
- `ofTokens_relocate`: the tree of moved tokens.
- `outcomes_relocate`: moved nodes are rendered alike.
-/

namespace Stencil

/-- The place whose offset is changed by `f`, on the first line. -/
def Place.relocate (f : Nat → Nat) (p : Place) : Place := ⟨f p.offset, 1, 1⟩

namespace Template

/-- The token at another place. -/
def Token.relocate (f : Nat → Nat) (t : Token) : Token := ⟨t.toPiece, t.place.relocate f⟩

mutual

/-- The node with the offsets changed. -/
def Node.relocate (f : Nat → Nat) : Node → Node
  | .text content => .text content
  | .placeholder name offset => .placeholder name (f offset)
  | .loop item collection offset body => .loop item collection (f offset) (relocateAll f body)
  | .conditional expression offset body => .conditional expression (f offset) (relocateAll f body)

/-- The nodes with the offsets changed. -/
def relocateAll (f : Nat → Nat) : List Node → List Node
  | [] => []
  | node :: rest => node.relocate f :: relocateAll f rest

end

theorem relocateAll_eq_map (f : Nat → Nat) (nodes : List Node) :
    relocateAll f nodes = nodes.map (Node.relocate f) := by
  induction nodes with
  | nil => rfl
  | cons node rest ih => rw [relocateAll, ih, List.map_cons]

/-- The problem at another place. -/
def Diagnostic.relocate (f : Nat → Nat) (d : Diagnostic) : Diagnostic :=
  ⟨d.problem, d.place.relocate f⟩

/-- The open block with the offsets changed. -/
def OpenBlock.relocate (f : Nat → Nat) (o : OpenBlock) : OpenBlock :=
  ⟨o.token.relocate f, o.head, o.before.map (Node.relocate f)⟩

/-- The tree with the offsets changed. -/
def Tree.relocate (f : Nat → Nat) (t : Tree) : Tree :=
  ⟨t.nodes.map (Node.relocate f), t.problems.map (Diagnostic.relocate f)⟩

theorem Token.leaf_relocate (f : Nat → Nat) (t : Token) :
    (t.relocate f).leaf = t.leaf.relocate f := by
  obtain ⟨⟨shape, value, raw⟩, place⟩ := t
  cases shape <;> rfl

theorem Node.block_relocate (f : Nat → Nat) (offset : Nat) (body : List Node) (head : Head) :
    (Node.block offset body head).relocate f =
      Node.block (f offset) (body.map (Node.relocate f)) head := by
  cases head with
  | loop item collection =>
    show Node.loop item collection (f offset) (relocateAll f body) = _
    rw [relocateAll_eq_map]
    rfl
  | conditional expression =>
    show Node.conditional expression (f offset) (relocateAll f body) = _
    rw [relocateAll_eq_map]
    rfl

namespace Builder

/-- The builder with the offsets changed. -/
def relocate (f : Nat → Nat) (b : Builder) : Builder :=
  ⟨b.body.map (Node.relocate f), b.stack.map (OpenBlock.relocate f),
    b.problems.map (Diagnostic.relocate f)⟩

theorem merge_relocate (f : Nat → Nat) (body : List Node) (stack : List OpenBlock) :
    merge (body.map (Node.relocate f)) (stack.map (OpenBlock.relocate f)) =
      (merge body stack).map (Node.relocate f) := by
  induction stack generalizing body with
  | nil => rfl
  | cons top rest ih =>
    rw [merge, ← ih, List.map_append]
    rfl

theorem closed_relocate (f : Nat → Nat) (b : Builder) (kind : BlockKind) (inner : List OpenBlock)
    (top : OpenBlock) (outer : List OpenBlock) :
    (b.relocate f).closed kind (inner.map (OpenBlock.relocate f)) (top.relocate f)
        (outer.map (OpenBlock.relocate f)) =
      (b.closed kind inner top outer).relocate f := by
  -- the problems name the moved markers, and the body is that of the moved blocks
  have hproblems : ((inner.map (OpenBlock.relocate f)).map (crossing kind)).reverse ++
      b.problems.map (Diagnostic.relocate f) =
        ((inner.map (crossing kind)).reverse ++ b.problems).map (Diagnostic.relocate f) := by
    rw [List.map_append, List.map_reverse, List.map_map, List.map_map]
    rfl
  have hblock : Node.block (f top.token.offset)
      (merge (b.body.map (Node.relocate f)) (inner.map (OpenBlock.relocate f))).reverse top.head =
        (Node.block top.token.offset (merge b.body inner).reverse top.head).relocate f := by
    rw [merge_relocate, Node.block_relocate, List.map_reverse]
  exact congr (congrArg (fun body => Builder.mk body (outer.map (OpenBlock.relocate f)))
    (congrArg (· :: top.before.map (Node.relocate f)) hblock)) hproblems

/-- The end of a reading, with everything moved. -/
theorem unwind_relocate (f : Nat → Nat) (b : Builder) :
    (b.relocate f).unwind (b.relocate f).stack = (b.unwind b.stack).relocate f := by
  have hproblems : ((b.stack.map (OpenBlock.relocate f)).map unclosing).reverse ++
      b.problems.map (Diagnostic.relocate f) =
        ((b.stack.map unclosing).reverse ++ b.problems).map (Diagnostic.relocate f) := by
    rw [List.map_append, List.map_reverse, List.map_map, List.map_map]
    rfl
  rw [unwind_stack, unwind_stack]
  exact congr (congrArg (fun body => Builder.mk body []) (merge_relocate f b.body b.stack))
    hproblems

/-- A step of the builder, made with everything moved. -/
theorem step_relocate (f : Nat → Nat) (b b' : Builder) (t : Token) (h : Step b t b') :
    Step (b.relocate f) (t.relocate f) (b'.relocate f) := by
  -- which directive a token is does not depend on its place
  cases h with
  | leaf hd =>
    have h := Step.leaf (b := b.relocate f) (t := t.relocate f) hd
    rwa [Token.leaf_relocate] at h
  | opening head hd => exact .opening head hd
  | closing kind inner top outer hd hstack hinner htop =>
    rw [← closed_relocate]
    refine .closing kind _ _ _ hd ?_ ?_ htop
    · show b.stack.map _ = _
      rw [hstack, List.map_append, List.map_cons]
    · intro g hg
      obtain ⟨g', hg', rfl⟩ := List.mem_map.1 hg
      exact hinner g' hg'
  | stray kind hd hstack =>
    refine .stray kind hd fun g hg => ?_
    obtain ⟨g', hg', rfl⟩ := List.mem_map.1 hg
    exact hstack g' hg'

/-- Reading moved tokens is reading the tokens, moved. -/
theorem foldl_read_relocate (f : Nat → Nat) (b : Builder) (ts : List Token) :
    (ts.map (Token.relocate f)).foldl read (b.relocate f) = (ts.foldl read b).relocate f := by
  induction ts generalizing b with
  | nil => rfl
  | cons t ts ih =>
    rw [List.map_cons, List.foldl_cons, List.foldl_cons, ← ih]
    rw [eq_read_of_step _ _ _ (step_relocate f b _ t (read_step b t))]

end Builder

/-- The same pieces, located from two places on, are the same tokens once they are moved to the
same offsets. -/
theorem map_relocate_locate (f g : Nat → Nat) (p q : Place) (ps : List Piece)
    (h : ∀ n, f (p.offset + n) = g (q.offset + n)) :
    (locate p ps).map (Token.relocate f) = (locate q ps).map (Token.relocate g) := by
  induction ps generalizing p q with
  | nil => rfl
  | cons piece ps ih =>
    -- the first pieces agree, and the next ones are as far behind them
    have hfirst : p.relocate f = q.relocate g := congrArg (Place.mk · 1 1) (h 0)
    rw [locate, locate, List.map_cons, List.map_cons, Token.relocate, Token.relocate, hfirst]
    refine congrArg _ (ih _ _ fun n => ?_)
    rw [Place.offset_advance, Place.offset_advance, Nat.add_assoc, Nat.add_assoc]
    exact h _

/-- The tree of moved tokens. -/
theorem ofTokens_relocate (f : Nat → Nat) (ts : List Token) :
    Tree.ofTokens (ts.map (Token.relocate f)) = (Tree.ofTokens ts).relocate f := by
  have hstart : Builder.start.relocate f = .start := rfl
  have hread := Builder.foldl_read_relocate f .start ts
  rw [hstart] at hread
  unfold Tree.ofTokens Tree.relocate
  rw [hread]
  dsimp only
  rw [Builder.unwind_relocate, List.map_reverse, List.map_reverse]
  rfl

/-! ## Rendering does not look at offsets -/

end Template

namespace Renderer

open Template

mutual

/-- A moved node gives the same. -/
theorem outcome_relocate (scope : Scope) (f : Nat → Nat) (node : Node) :
    outcome scope (node.relocate f) = outcome scope node := by
  cases node with
  | text content => rfl
  | placeholder name offset => rfl
  | loop item collection offset body =>
    -- the body gives the same in the scope of every element
    have hbody : ∀ element, outcomes (scope.bind item element) (relocateAll f body) =
        outcomes (scope.bind item element) body := fun element =>
      outcomes_relocateAll (scope.bind item element) f body
    unfold Node.relocate outcome
    simp only [hbody]
  | conditional expression offset body =>
    unfold Node.relocate outcome
    rw [outcomes_relocateAll scope f body]

theorem outcomes_relocateAll (scope : Scope) (f : Nat → Nat) (nodes : List Node) :
    outcomes scope (relocateAll f nodes) = outcomes scope nodes := by
  cases nodes with
  | nil => rfl
  | cons node rest =>
    rw [relocateAll, outcomes, outcomes, outcome_relocate scope f node,
      outcomes_relocateAll scope f rest]

end

/-- Moved nodes give the same. -/
theorem outcomes_relocate (scope : Scope) (f : Nat → Nat) (nodes : List Node) :
    outcomes scope (nodes.map (Node.relocate f)) = outcomes scope nodes := by
  rw [← relocateAll_eq_map, outcomes_relocateAll]

end Renderer

end Stencil
