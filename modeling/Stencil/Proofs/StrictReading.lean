import Stencil.Proofs.NestingRepair
import Stencil.Render.Basic

/-!
# Strict and lenient readings

A strict reading of a template ends where a lenient one finds its first problem, with just that
problem, and is the lenient reading when there is none.

The two readings are at the same builder as long as nothing was reported. From the first problem on
the strict one has ended, while the lenient one goes on; since a reading forgets no problem
(`problems_suffix_foldl`), the first one is still there at the end. A closing marker and the end of
the template may report several problems at once, the innermost block's first, and that is the one
that a strict reading meets.

## Key results

- `readStrict_of_step`: what a strict reading makes of a step of the lenient one.
- `foldlM_readStrict`: the same for whole readings.
- `ofTokensStrict_eq`: the strict reading of tokens, told by the lenient one.
- `strict_agrees_with_lenient`: the same for templates, and for what they are rendered as.
-/

namespace Stencil.Template

namespace Builder

/-- The problem that was found first. -/
def first? (b : Builder) : Option Diagnostic := b.problems.getLast?

/-- The builder, or the first problem in its place. -/
def settled (b : Builder) : Except Diagnostic Builder :=
  match b.first? with
  | none => .ok b
  | some d => .error d

theorem settled_of_problems_eq_nil (b : Builder) (h : b.problems = []) : b.settled = .ok b := by
  rw [settled, first?, h]
  rfl

/-- The first problem is the last one of the list. -/
theorem settled_of_problems_eq_concat (b : Builder) (ds : List Diagnostic) (d : Diagnostic)
    (h : b.problems = ds ++ [d]) : b.settled = .error d := by
  rw [settled, first?, h, List.getLast?_concat]

/-- Once a problem is found, it stays the first. -/
theorem settled_of_suffix (b b' : Builder) (h : b.problems <:+ b'.problems)
    (hne : b.problems ≠ []) : ∃ d, b.settled = .error d ∧ b'.settled = .error d := by
  obtain ⟨ds, hds⟩ := h
  obtain ⟨es, d, hd⟩ := (List.eq_nil_or_concat' b.problems).resolve_left hne
  refine ⟨d, settled_of_problems_eq_concat b es d hd, ?_⟩
  refine settled_of_problems_eq_concat b' (ds ++ es) d ?_
  rw [← hds, hd, List.append_assoc]

/-- A closing marker with open blocks of other kinds inside its own meets the innermost of them. -/
theorem closeStrict_crossing (b : Builder) (t : Token) (kind : BlockKind) (f : OpenBlock)
    (inner : List OpenBlock) (top : OpenBlock) (outer : List OpenBlock)
    (hstack : b.stack = f :: inner ++ top :: outer) (hf : f.head.kind ≠ kind)
    (htop : top.head.kind = kind) : b.closeStrict t kind = .error (crossing kind f) := by
  have hopen : b.hasOpen kind = true := (hasOpen_iff b kind).2 ⟨top, by simp [hstack], htop⟩
  rw [closeStrict, hstack]
  show (if f.head.kind = kind then _ else if b.hasOpen kind then _ else _) = _
  rw [if_neg hf, if_pos hopen]
  rfl

/-- A closing marker that no open block waits for is a problem itself. -/
theorem closeStrict_stray (b : Builder) (t : Token) (kind : BlockKind)
    (h : ∀ f ∈ b.stack, f.head.kind ≠ kind) :
    b.closeStrict t kind = .error ⟨.stray kind, t.place⟩ := by
  have hopen : ¬ b.hasOpen kind = true := by
    rw [hasOpen_iff]
    rintro ⟨f, hf, hk⟩
    exact h f hf hk
  unfold closeStrict
  split
  · rfl
  · next top rest hs => rw [if_neg (h top (by simp [hs])), if_neg hopen]

/-- The strict reading of a token is the lenient one, up to the first problem. -/
theorem readStrict_of_step (b b' : Builder) (t : Token) (h : Step b t b')
    (hb : b.problems = []) : b.readStrict t = b'.settled := by
  rw [readStrict_eq]
  cases h with
  | leaf hd =>
    rw [hd]
    exact (settled_of_problems_eq_nil (b.add t.leaf) hb).symm
  | opening head hd =>
    rw [hd]
    exact (settled_of_problems_eq_nil (b.enter t head) hb).symm
  | stray kind hd hstack =>
    rw [hd, settled_of_problems_eq_concat _ [] ⟨.stray kind, t.place⟩]
    · exact closeStrict_stray b t kind hstack
    · show _ :: b.problems = _
      rw [hb, List.nil_append]
  | closing kind inner top outer hd hstack hinner htop =>
    rw [hd]
    cases inner with
    | nil =>
      -- the innermost block is the one that is ended
      rw [List.nil_append] at hstack
      rw [settled_of_problems_eq_nil (b.closed kind [] top outer) hb]
      show b.closeStrict t kind = _
      rw [closeStrict, hstack]
      dsimp only
      rw [if_pos htop, closeTop, hstack]
      rfl
    | cons f inner =>
      -- the blocks inside are given up in order, so the innermost one is reported first
      rw [settled_of_problems_eq_concat _ (inner.map (crossing kind)).reverse (crossing kind f)]
      · exact closeStrict_crossing b t kind f inner top outer hstack
          (hinner f List.mem_cons_self) htop
      · show (List.map (crossing kind) (f :: inner)).reverse ++ b.problems = _
        rw [hb, List.append_nil, List.map_cons, List.reverse_cons]

/-- A strict reading is the lenient one, up to the first problem. -/
theorem foldlM_readStrict (b : Builder) (ts : List Token) (hb : b.problems = []) :
    ts.foldlM readStrict b = (ts.foldl read b).settled := by
  induction ts generalizing b with
  | nil => exact (settled_of_problems_eq_nil b hb).symm
  | cons t ts ih =>
    have hstep := readStrict_of_step b _ t (read_step b t) hb
    rw [List.foldlM_cons, List.foldl_cons, hstep]
    by_cases hnow : (b.read t).problems = []
    · rw [settled_of_problems_eq_nil _ hnow]
      exact ih (b.read t) hnow
    · -- the strict reading ends here, and the lenient one keeps the problem to the end
      obtain ⟨d, hd, hend⟩ :=
        settled_of_suffix _ _ (problems_suffix_foldl (b.read t) ts) hnow
      rw [hd, hend]
      rfl

/-- The strict end of a reading without a problem, told by the lenient one. -/
theorem finishStrict_eq (b : Builder) (hb : b.problems = []) :
    b.finishStrict = b.finish.settled.map fun b' => b'.body.reverse := by
  obtain ⟨body, stack, problems⟩ := b
  obtain rfl : problems = [] := hb
  have hend := unwind_stack ⟨body, stack, []⟩
  cases stack with
  | nil => rfl
  | cons top rest =>
    -- the innermost block is the first to be reported
    have hproblems : (finish ⟨body, top :: rest, []⟩).problems =
        (rest.map unclosing).reverse ++ [unclosing top] := by
      rw [finish, hend, List.append_nil, List.map_cons, List.reverse_cons]
    rw [settled_of_problems_eq_concat _ _ _ hproblems]
    rfl

end Builder

/-- The strict reading of a list of tokens ends with the first problem of the lenient one, and gives
the same nodes if there is none. -/
theorem ofTokensStrict_eq (ts : List Token) :
    Tree.ofTokensStrict ts = match (Tree.ofTokens ts).problems with
      | [] => .ok (Tree.ofTokens ts).nodes
      | first :: _ => .error first := by
  have hsettled : Tree.ofTokensStrict ts =
      (ts.foldl Builder.read .start).finish.settled.map fun b => b.body.reverse := by
    rw [Tree.ofTokensStrict, Builder.foldlM_readStrict .start ts rfl]
    by_cases hnow : (ts.foldl Builder.read .start).problems = []
    · rw [Builder.settled_of_problems_eq_nil _ hnow]
      exact Builder.finishStrict_eq _ hnow
    · -- a problem before the end is the first one at the end
      obtain ⟨d, hd, hend⟩ :=
        Builder.settled_of_suffix _ _ (Builder.problems_suffix_unwind _) hnow
      rw [hd, Builder.finish, hend]
      rfl
  -- the tree has the problems in the order they were found
  have hfirst : (ts.foldl Builder.read .start).finish.first? = (Tree.ofTokens ts).problems.head? :=
    List.head?_reverse.symm
  rw [hsettled, Builder.settled, hfirst]
  cases (Tree.ofTokens ts).problems <;> rfl

/-- The strict reading of a template ends with the first problem of the lenient one, and is the same
if there is none. -/
theorem parseStrict_eq (source : String) :
    parseStrict source = match (parse source).problems with
      | [] => .ok (parse source)
      | first :: _ => .error first := by
  have htree := ofTokensStrict_eq (tokenize (Defaults.extract source).2).tokens
  show (do
    let nodes ← Tree.ofTokensStrict (tokenize (Defaults.extract source).2).tokens
    return Template.mk _ _ _ nodes []) = _
  rw [htree]
  unfold parse
  dsimp only
  -- the two templates differ in their problems at most
  cases h : (Tree.ofTokens (tokenize (Defaults.extract source).2).tokens).problems with
  | nil => rfl
  | cons first rest => rfl

/-- Strict and lenient readings agree. A strict reading refuses a template exactly if the lenient
one has a problem, namely with the first of them, and its message is that of the problem with the
place behind it; otherwise both give the same template. So a template that is read strictly is
rendered as when it is read leniently, or refused with that problem. -/
theorem strict_agrees_with_lenient (source : String) :
    ((∃ d, parseWith true source = .error d) ↔ ∃ t, parseWith false source = .ok t ∧
      t.problems ≠ []) ∧
    (∀ d, parseWith true source = .error d →
      (∃ t rest, parseWith false source = .ok t ∧ t.problems = d :: rest) ∧
        d.errorMessage = d.message ++
          (" at " ++ (toString d.place.line ++ ":" ++ toString d.place.column))) ∧
    (∀ t, parseWith true source = .ok t → parseWith false source = .ok t) ∧
    ∀ useDefaults data,
      (parseWith true source).map (render · useDefaults data) =
        match (parse source).problems with
        | [] => (parseWith false source).map (render · useDefaults data)
        | first :: _ => .error first := by
  have hlenient : parseWith false source = .ok (parse source) := rfl
  have hstrict : parseWith true source = match (parse source).problems with
    | [] => .ok (parse source)
    | first :: _ => .error first := parseStrict_eq source
  rw [hlenient, hstrict]
  cases h : (parse source).problems with
  | nil =>
    refine ⟨⟨?_, ?_⟩, ?_, fun t ht => ht, fun _ _ => rfl⟩
    · rintro ⟨d, hd⟩
      cases hd
    · rintro ⟨t, ht, hne⟩
      cases ht
      exact absurd h hne
    · intro d hd
      cases hd
  | cons first rest =>
    refine ⟨⟨fun _ => ⟨_, rfl, by simp [h]⟩, fun _ => ⟨first, rfl⟩⟩, ?_, ?_, fun _ _ => rfl⟩
    · intro d hd
      cases hd
      exact ⟨⟨_, rest, rfl, h⟩, by rw [Diagnostic.errorMessage, Place.toText, String.append_assoc]⟩
    · intro t ht
      cases ht

end Stencil.Template
