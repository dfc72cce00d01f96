import Stencil.Proofs.BuilderSteps

/-!
# The markers that problems are about

A nesting problem names the place of a marker and the kind of block it is about. The marker at that
place is a directive of the template, and it opens or closes a block of just that kind: this holds
of all that a builder has reported, and each open block keeps the marker that it may be reported
for.

## Key results

- `marks_of_step`, `marks_foldl`, `marks_unwind`: the invariant for a step, for a run and for the
  end of a reading.
- `exists_marker_of_mem_problems`: the same for the tree of a list of tokens.
-/

namespace Stencil.Template

/-- The problem is about a marker with the given directive: a closing one if it is stray, and the
one that opens the block in the two other cases. -/
def NestingProblem.IsAbout : NestingProblem → Directive → Prop
  | .stray kind, directive => directive = .closing kind
  | .crossed inner _, directive => ∃ head, directive = .opening head ∧ head.kind = inner
  | .unclosed kind, directive => ∃ head, directive = .opening head ∧ head.kind = kind

/-- The problem is about one of the given tokens: it has the place of that marker, and the kind of
its block. -/
def Diagnostic.MarksOneOf (ts : List Token) (d : Diagnostic) : Prop :=
  ∃ t ∈ ts, t.place = d.place ∧ ∃ directive, t.directive? = some directive ∧
    d.problem.IsAbout directive

namespace Builder

/-- All problems are about some of the given tokens, and all open blocks were opened by them. -/
structure Marks (ts : List Token) (b : Builder) : Prop where
  problems : ∀ d ∈ b.problems, d.MarksOneOf ts
  stack : ∀ f ∈ b.stack, f.token ∈ ts ∧ f.token.directive? = some (.opening f.head)

variable {ts : List Token} {b b' : Builder}

/-- A block that is given up is reported by its opening marker. -/
theorem Marks.crossing (h : Marks ts b) (kind : BlockKind) (f : OpenBlock) (hf : f ∈ b.stack) :
    (crossing kind f).MarksOneOf ts := by
  obtain ⟨hmem, hd⟩ := h.stack f hf
  exact ⟨f.token, hmem, rfl, _, hd, f.head, rfl, rfl⟩

theorem Marks.unclosing (h : Marks ts b) (f : OpenBlock) (hf : f ∈ b.stack) :
    (unclosing f).MarksOneOf ts := by
  obtain ⟨hmem, hd⟩ := h.stack f hf
  exact ⟨f.token, hmem, rfl, _, hd, f.head, rfl, rfl⟩

theorem marks_of_step (t : Token) (ht : t ∈ ts) (hstep : Step b t b') (h : Marks ts b) :
    Marks ts b' := by
  cases hstep with
  | leaf => exact ⟨h.problems, h.stack⟩
  | opening head hd =>
    constructor
    · exact h.problems
    · intro f hf
      cases hf with
      | head => exact ⟨ht, hd⟩
      | tail _ hf => exact h.stack f hf
  | stray kind hd =>
    constructor
    · intro d hm
      cases hm with
      | head => exact ⟨t, ht, rfl, _, hd, rfl⟩
      | tail _ hm => exact h.problems d hm
    · exact h.stack
  | closing kind inner top outer _ hstack =>
    constructor
    · intro d hm
      cases List.mem_append.1 hm with
      | inl hm =>
        obtain ⟨f, hf, rfl⟩ := List.mem_map.1 (List.mem_reverse.1 hm)
        exact h.crossing kind f (by simp [hstack, hf])
      | inr hm => exact h.problems d hm
    · intro f hf
      apply h.stack f
      simp [hstack, show f ∈ outer from hf]

theorem marks_foldl (us : List Token) (hus : us ⊆ ts) (h : Marks ts b) :
    Marks ts (us.foldl read b) := by
  induction us generalizing b with
  | nil => exact h
  | cons t us ih =>
    obtain ⟨ht, hus⟩ := List.cons_subset.1 hus
    exact ih hus (marks_of_step t ht (read_step b t) h)

theorem marks_unwind (h : Marks ts b) : Marks ts (b.unwind b.stack) := by
  rw [unwind_stack]
  constructor
  · intro d hm
    cases List.mem_append.1 hm with
    | inl hm =>
      obtain ⟨f, hf, rfl⟩ := List.mem_map.1 (List.mem_reverse.1 hm)
      exact h.unclosing f hf
    | inr hm => exact h.problems d hm
  · simp

end Builder

/-- A problem of a tree is about one of its tokens. -/
theorem exists_marker_of_mem_problems (ts : List Token) (d : Diagnostic)
    (h : d ∈ (Tree.ofTokens ts).problems) : d.MarksOneOf ts := by
  have hstart : Builder.Marks ts .start := ⟨by simp [Builder.start], by simp [Builder.start]⟩
  have hread := Builder.marks_foldl ts (List.Subset.refl ts) hstart
  exact (Builder.marks_unwind hread).problems d (List.mem_reverse.1 h)

end Stencil.Template
