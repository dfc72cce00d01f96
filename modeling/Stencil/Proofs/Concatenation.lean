import Stencil.Proofs.BlockWrapping

/-!
# One template behind another

A template that stands for itself gives what it gives alone, whatever is put behind it, and what is
put behind it gives what it gives alone; so two templates put together give their two texts put
together. The second template may be of any kind, with problems of nesting and markers that are not
closed.

Three things can happen at the seam. The pieces of both templates remain, or a run of text at the
end of the first one and a run at the start of the second one become one run
(`pieces_seam`). The blocks of the first template are all ended, so the second one is read as if
nothing were before it but nodes (`foldl_read_after`). And its tokens stand further behind, which
only shows in the offsets (`ofTokens_relocate`).

## Key results

- `pieces_seam`: the pieces of two templates put together.
- `ofTokens_append`: the tree of well nested tokens and any others behind them.
- `follows_append`: a second template behind a first one that stands for itself.
- `renderText_append`: rendering is a homomorphism.
-/

namespace Stencil.Template

open Stencil.Text Stencil.Renderer

/-! ## The pieces at the seam -/

/-- A text without a marker is split where the text behind it is. -/
theorem splitOpening_append_of_eq_nil (s u : List Char) (hs : EndsApart s)
    (h : (splitOpening s).2 = []) :
    splitOpening (s ++ u) = (s ++ (splitOpening u).1, (splitOpening u).2) := by
  induction s with
  | nil => rfl
  | cons c s ih =>
    unfold splitOpening at h
    split at h
    · cases h
    · next ho =>
      rw [List.cons_append, splitOpening, opens_seam c s u hs, if_neg ho,
        ih (endsApart_of_append [c] s hs) h]
      rfl

/-- The pieces of a text that no marker ends are those of one run. -/
theorem pieces_run (c : Char) (s : List Char) (ho : ¬ opens (c :: s) = true)
    (h : (splitOpening s).2 = []) : pieces (c :: s) = [.text .run (c :: s)] := by
  have hsplit := splitOpening_append s
  rw [h, List.append_nil] at hsplit
  rw [pieces_of_readPiece? _ _ _ (readPiece?_run c s ho), h, hsplit, pieces_nil]

/-- A run of text before a template that begins with another one. -/
theorem pieces_run_append (c d : Char) (s u : List Char) (ho : ¬ opens (c :: s) = true)
    (h : (splitOpening s).2 = []) (hs : EndsApart (c :: s)) (hu : ¬ opens (d :: u) = true) :
    pieces (c :: s ++ d :: u) =
      .text .run (c :: s ++ d :: (splitOpening u).1) :: pieces (splitOpening u).2 := by
  have hsplit : splitOpening (d :: u) = (d :: (splitOpening u).1, (splitOpening u).2) := by
    rw [splitOpening, if_neg hu]
  have hrun := readPiece?_run c (s ++ d :: u) (by rw [opens_seam c s _ hs]; exact ho)
  rw [splitOpening_append_of_eq_nil s _ (endsApart_of_append [c] s hs) h, hsplit] at hrun
  exact pieces_of_readPiece? _ _ _ hrun

/-- A text that is one run before any other text. -/
private theorem pieces_seam_run (c : Char) (s u : List Char) (ho : ¬ opens (c :: s) = true)
    (h : (splitOpening s).2 = []) (hs : EndsApart (c :: s)) :
    pieces (c :: s ++ u) = pieces (c :: s) ++ pieces u ∨
      ∃ ps x y qs, pieces (c :: s) = ps ++ [.text .run x] ∧ pieces u = .text .run y :: qs ∧
        pieces (c :: s ++ u) = ps ++ .text .run (x ++ y) :: qs := by
  have hone := pieces_run c s ho h
  cases u with
  | nil => exact .inl (by rw [List.append_nil, pieces_nil, List.append_nil])
  | cons d u =>
    by_cases hu : opens (d :: u) = true
    · -- a run is closed, and a marker follows
      refine .inl (pieces_append (c :: s) (d :: u) ?_ hs hu)
      rw [hone]
      intro p hp
      rw [List.mem_singleton.1 hp]
      exact ⟨Shape.noConfusion, Shape.noConfusion⟩
    · exact .inr ⟨[], c :: s, d :: (splitOpening u).1, pieces (splitOpening u).2, hone,
        pieces_of_readPiece? _ _ _ (readPiece?_run d u hu), pieces_run_append c d s u ho h hs hu⟩

/-- The pieces of two templates put together are those of the two, or two runs of text at the seam
are one. -/
theorem pieces_seam (s u : List Char) (hclosed : AllClosed (pieces s)) (hs : EndsApart s) :
    pieces (s ++ u) = pieces s ++ pieces u ∨
      ∃ ps x y qs, pieces s = ps ++ [.text .run x] ∧ pieces u = .text .run y :: qs ∧
        pieces (s ++ u) = ps ++ .text .run (x ++ y) :: qs := by
  -- on the scan of the first text; what remains of it has the same properties
  fun_induction pieces s with
  | case1 s h =>
    rw [(readPiece?_eq_none_iff s).1 h]
    exact .inl rfl
  | case2 s p rest h _ ih =>
    by_cases hinside : opens s = true ∨ rest ≠ []
    · -- the piece remains, and the seam is further on
      have hrest : EndsApart rest :=
        endsApart_of_append p.raw.toList rest (eq_append_of_readPiece? s rest p h ▸ hs)
      have hseam := readPiece?_seam s u rest p h (hclosed p List.mem_cons_self) hs
        (hinside.imp_right .inl)
      rw [pieces_of_readPiece? _ _ _ hseam]
      rcases ih (fun q hq => hclosed q (List.mem_cons_of_mem p hq)) hrest with
        happend | ⟨ps, x, y, qs, hps, hqs, happend⟩
      · exact .inl (by rw [happend, List.cons_append])
      · exact .inr ⟨p :: ps, x, y, qs, by rw [hps, List.cons_append], hqs,
          by rw [happend, List.cons_append]⟩
    · -- the first text is one run up to the seam
      obtain ⟨ho, hrest⟩ := not_or.1 hinside
      rw [← pieces_of_readPiece? s rest p h]
      cases s with
      | nil => cases h
      | cons c s =>
        rw [readPiece?_run c s ho] at h
        cases h
        exact pieces_seam_run c s u ho (Decidable.not_not.1 hrest) hs

/-! ## Reading on behind nodes -/

namespace Builder

/-- A body and the open blocks around it, with nodes before all that was read. The nodes are given
the last one first. -/
def putBefore (nodes body : List Node) : List OpenBlock → List Node × List OpenBlock
  | [] => (body ++ nodes, [])
  | top :: rest =>
    let (before, outer) := putBefore nodes top.before rest
    (body, ⟨top.token, top.head, before⟩ :: outer)

/-- The builder with nodes before all that it has read. -/
def after (nodes : List Node) (b : Builder) : Builder :=
  ⟨(putBefore nodes b.body b.stack).1, (putBefore nodes b.body b.stack).2, b.problems⟩

/-- What is added to the innermost body stays in front of it. -/
theorem putBefore_append (nodes more body : List Node) (stack : List OpenBlock) :
    putBefore nodes (more ++ body) stack =
      (more ++ (putBefore nodes body stack).1, (putBefore nodes body stack).2) := by
  cases stack with
  | nil => exact congrArg (·, []) (List.append_assoc more body nodes)
  | cons top rest => rfl

/-- Blocks inside an open block are as before. -/
theorem putBefore_stack (nodes body : List Node) (inner : List OpenBlock) (top : OpenBlock)
    (outer : List OpenBlock) :
    putBefore nodes body (inner ++ top :: outer) =
      (body, inner ++ ⟨top.token, top.head, (putBefore nodes top.before outer).1⟩ ::
        (putBefore nodes top.before outer).2) := by
  induction inner generalizing body with
  | nil => rfl
  | cons f inner ih =>
    rw [List.cons_append, putBefore, ih]
    rfl

theorem merge_putBefore (nodes body : List Node) (stack : List OpenBlock) :
    merge (putBefore nodes body stack).1 (putBefore nodes body stack).2 =
      merge body stack ++ nodes := by
  induction stack generalizing body with
  | nil => rfl
  | cons top rest ih =>
    show merge (body ++ .text top.token.raw :: (putBefore nodes top.before rest).1)
      (putBefore nodes top.before rest).2 = _
    have happend := putBefore_append nodes (body ++ [.text top.token.raw]) top.before rest
    rw [List.append_assoc, List.singleton_append] at happend
    rw [merge, ← ih, happend, List.append_assoc, List.singleton_append]

/-- The open blocks are the same up to what stands before them. -/
theorem map_unclosing_putBefore (nodes body : List Node) (stack : List OpenBlock) :
    (putBefore nodes body stack).2.map unclosing = stack.map unclosing := by
  induction stack generalizing body with
  | nil => rfl
  | cons top rest ih => exact congrArg (unclosing top :: ·) (ih top.before)

theorem after_add (nodes : List Node) (b : Builder) (node : Node) :
    (b.add node).after nodes = (b.after nodes).add node := by
  have h := putBefore_append nodes [node] b.body b.stack
  rw [List.singleton_append] at h
  unfold after add
  dsimp only
  rw [h]
  rfl

/-- A step does not look at what the builder has before it. -/
theorem step_after (nodes : List Node) (b b' : Builder) (t : Token) (h : Step b t b') :
    Step (b.after nodes) t (b'.after nodes) := by
  cases h with
  | leaf hd =>
    rw [after_add]
    exact .leaf hd
  | opening head hd => exact .opening head hd
  | stray kind hd hstack =>
    rw [after_add]
    refine .stray kind hd fun f hf => ?_
    -- the block is one of the builder's own
    have hmem : unclosing f ∈ (b.after nodes).stack.map unclosing := List.mem_map_of_mem hf
    rw [show (b.after nodes).stack.map unclosing = _ from
      map_unclosing_putBefore nodes b.body b.stack] at hmem
    obtain ⟨g, hg, hgf⟩ := List.mem_map.1 hmem
    have hkind : g.head.kind = f.head.kind :=
      NestingProblem.unclosed.inj (congrArg Diagnostic.problem hgf)
    rw [← hkind]
    exact hstack g hg
  | closing kind inner top outer hd hstack hinner htop =>
    have hput := putBefore_stack nodes b.body inner top outer
    rw [← hstack] at hput
    have hclosed := putBefore_append nodes
      [.block top.token.offset (merge b.body inner).reverse top.head] top.before outer
    rw [List.singleton_append] at hclosed
    -- the block that is ended is the same, with the nodes before it or in a block around it
    have hstep := Step.closing (b := b.after nodes) (t := t) kind inner
      ⟨top.token, top.head, (putBefore nodes top.before outer).1⟩
      (putBefore nodes top.before outer).2 hd (congrArg Prod.snd hput) hinner htop
    have hbody : (b.after nodes).body = b.body := congrArg Prod.fst hput
    unfold closed at hstep ⊢
    rw [hbody] at hstep
    unfold after at hstep ⊢
    dsimp only at hstep ⊢
    rw [hclosed]
    exact hstep

/-- A reading does not look at what the builder has before it. -/
theorem foldl_read_after (nodes : List Node) (b : Builder) (ts : List Token) :
    ts.foldl read (b.after nodes) = (ts.foldl read b).after nodes := by
  induction ts generalizing b with
  | nil => rfl
  | cons t ts ih =>
    have hstep := step_after nodes b _ t (read_step b t)
    rw [List.foldl_cons, List.foldl_cons, ← eq_read_of_step _ _ _ hstep]
    exact ih (b.read t)

/-- At the end of a reading, what the builder has before it is still there. -/
theorem unwind_after (nodes : List Node) (b : Builder) :
    (b.after nodes).unwind (b.after nodes).stack =
      ⟨(b.unwind b.stack).body ++ nodes, [], (b.unwind b.stack).problems⟩ := by
  have hmerge := merge_putBefore nodes b.body b.stack
  have hproblems := map_unclosing_putBefore nodes b.body b.stack
  rw [unwind_stack, unwind_stack]
  exact congr (congrArg (fun body => Builder.mk body []) hmerge)
    (congrArg (fun ds => ds.reverse ++ b.problems) hproblems)

end Builder

/-- The tree of well nested tokens and any others behind them. -/
theorem ofTokens_append (ts us : List Token) (h : (Tree.ofTokens ts).problems = []) :
    Tree.ofTokens (ts ++ us) =
      ⟨(Tree.ofTokens ts).nodes ++ (Tree.ofTokens us).nodes, (Tree.ofTokens us).problems⟩ := by
  -- the nodes of the first tokens are before what is read from there on
  have hafter : ts.foldl Builder.read .start =
      Builder.start.after (Tree.ofTokens ts).nodes.reverse :=
    Builder.foldl_read_of_problems_eq_nil ts h
  have hread : (ts ++ us).foldl Builder.read .start =
      (us.foldl Builder.read .start).after (Tree.ofTokens ts).nodes.reverse := by
    rw [List.foldl_append, hafter, Builder.foldl_read_after]
  generalize Tree.ofTokens ts = tree at hread ⊢
  unfold Tree.ofTokens
  rw [hread]
  dsimp only
  rw [Builder.unwind_after, List.reverse_append, List.reverse_reverse]

/-- A token that is a leaf before others. -/
theorem ofTokens_leaf_cons (t : Token) (ts : List Token) (h : t.directive? = none) :
    Tree.ofTokens (t :: ts) =
      ⟨t.leaf :: (Tree.ofTokens ts).nodes, (Tree.ofTokens ts).problems⟩ := by
  have hone : Tree.ofTokens [t] = ⟨[t.leaf], []⟩ := by
    rw [Tree.ofTokens, List.foldl_cons, Builder.read_eq, h]
    rfl
  have happend := ofTokens_append [t] ts (by rw [hone])
  rwa [hone] at happend

/-- A leaf at the end makes no problem and ends none. -/
theorem problems_ofTokens_concat (ts : List Token) (t : Token) (h : t.directive? = none) :
    (Tree.ofTokens (ts ++ [t])).problems = (Tree.ofTokens ts).problems := by
  have hlast := Builder.unwind_stack ((ts.foldl Builder.read .start).add t.leaf)
  have hread := Builder.unwind_stack (ts.foldl Builder.read .start)
  rw [Tree.ofTokens, List.foldl_append, List.foldl_cons, List.foldl_nil, Builder.read_eq, h,
    Tree.ofTokens]
  dsimp only
  rw [hlast, hread]
  rfl

/-! ## Tokens that stand further behind -/

theorem offset_finish (p : Place) (ps : List Piece) :
    (finish p ps).offset = p.offset + (ps.map (·.raw.toList)).flatten.length := by
  rw [finish_eq, Place.offset_advance]

/-- Pieces that stand further behind give the same, and their problems are as far behind. -/
theorem ofTokens_locate_behind (n : Nat) (p q : Place) (ps : List Piece)
    (h : q.offset = n + p.offset) :
    (∀ scope, outcomes scope (Tree.ofTokens (locate q ps)).nodes =
      outcomes scope (Tree.ofTokens (locate p ps)).nodes) ∧
    (Tree.ofTokens (locate q ps)).problems.map (Diagnostic.relocate id) =
      (Tree.ofTokens (locate p ps)).problems.map (Diagnostic.relocate (n + ·)) := by
  have htokens := map_relocate_locate id (n + ·) q p ps fun k => by
    show q.offset + k = n + (p.offset + k)
    omega
  have htree := congrArg Tree.ofTokens htokens
  rw [ofTokens_relocate, ofTokens_relocate] at htree
  refine ⟨fun scope => ?_, congrArg Tree.problems htree⟩
  -- the offsets of the nodes do not show
  rw [← outcomes_relocate scope id, ← outcomes_relocate scope (n + ·) (Tree.ofTokens _).nodes]
  exact congrArg (fun tree => outcomes scope tree.nodes) htree

/-! ## What two templates give together -/

theorem outcomes_append (scope : Scope) (nodes more : List Node) :
    outcomes scope (nodes ++ more) =
      (outcomes scope nodes).append (outcomes scope more) := by
  induction nodes with
  | nil =>
    rw [List.nil_append, outcomes]
    exact (Rendered.empty_append _).symm
  | cons node nodes ih => rw [List.cons_append, outcomes, outcomes, ih, Rendered.append_assoc]

/-- One text and another behind it give both. -/
theorem append_texts (s t : String) (r : Rendered) :
    (Rendered.mk (.ok (s ++ t)) []).append r =
      (Rendered.mk (.ok s) []).append ((Rendered.mk (.ok t) []).append r) := by
  rw [← Rendered.append_assoc]
  rfl

/-- What is read of the text `ab` follows from what is read of `a` and of `b`: its nodes give first
what those of `a` give and then what those of `b` give, and its problems are those of `b`, as far
behind as `a` is long. -/
structure Follows (a b ab : String) : Prop where
  outcomes : ∀ scope, Renderer.outcomes scope (Tree.ofTokens (tokenize ab).tokens).nodes =
    (Renderer.outcomes scope (Tree.ofTokens (tokenize a).tokens).nodes).append
      (Renderer.outcomes scope (Tree.ofTokens (tokenize b).tokens).nodes)
  problems : (Tree.ofTokens (tokenize ab).tokens).problems.map (Diagnostic.relocate id) =
    (Tree.ofTokens (tokenize b).tokens).problems.map (Diagnostic.relocate (a.length + ·))

/-- When the pieces of both templates remain. -/
theorem follows_of_pieces_append (a b : String) (h : SelfContained a)
    (hpieces : pieces (a ++ b).toList = pieces a.toList ++ pieces b.toList) :
    Follows a b (a ++ b) := by
  have htokens : (tokenize (a ++ b)).tokens =
      (tokenize a).tokens ++ locate (finish .start (pieces a.toList)) (pieces b.toList) := by
    rw [tokenize, hpieces, locate_append]
    rfl
  have hplace : (finish .start (pieces a.toList)).offset = a.length + Place.start.offset := by
    rw [offset_finish, flatten_raw_pieces, String.length_toList, Nat.add_comm]
  have htree := ofTokens_append (tokenize a).tokens
    (locate (finish .start (pieces a.toList)) (pieces b.toList)) h.nested
  rw [← htokens] at htree
  obtain ⟨houtcomes, hproblems⟩ := ofTokens_locate_behind _ _ _ (pieces b.toList) hplace
  constructor
  · intro scope
    rw [htree, outcomes_append, houtcomes]
    rfl
  · rw [htree]
    exact hproblems

/-- When two runs of text become one. -/
theorem follows_of_pieces_run (a b : String) (h : SelfContained a) (ps qs : List Piece)
    (x y : List Char) (ha : pieces a.toList = ps ++ [.text .run x])
    (hb : pieces b.toList = .text .run y :: qs)
    (hpieces : pieces (a ++ b).toList = ps ++ .text .run (x ++ y) :: qs) :
    Follows a b (a ++ b) := by
  have hrun : ∀ (z : List Char) (p : Place), Token.directive? ⟨.text .run z, p⟩ = none :=
    fun _ _ => rfl
  let p := finish .start ps
  have hatokens : (tokenize a).tokens = locate .start ps ++ [⟨.text .run x, p⟩] := by
    rw [tokenize, ha, locate_append]
    rfl
  have hbtokens : (tokenize b).tokens =
      ⟨.text .run y, .start⟩ :: locate (Place.start.advance y) qs := by
    rw [tokenize, hb, locate, Piece.raw_text, String.toList_ofList]
  have htokens : (tokenize (a ++ b)).tokens =
      locate .start ps ++ ⟨.text .run (x ++ y), p⟩ :: locate (p.advance (x ++ y)) qs := by
    rw [tokenize, hpieces, locate_append, locate, Piece.raw_text, String.toList_ofList]
  -- the first template is well nested without the run at its end
  have hnested : (Tree.ofTokens (locate .start ps)).problems = [] := by
    rw [← problems_ofTokens_concat _ _ (hrun x p), ← hatokens]
    exact h.nested
  have hlength : a.length = p.offset + x.length := by
    have hflat := flatten_raw_pieces a.toList
    rw [ha, List.map_append, List.flatten_append] at hflat
    have hlen := congrArg List.length hflat
    rw [List.length_append, String.length_toList] at hlen
    rw [← hlen, offset_finish]
    simp [Place.start]
  have hplace : (p.advance (x ++ y)).offset = a.length + (Place.start.advance y).offset := by
    rw [Place.offset_advance, Place.offset_advance, List.length_append, hlength]
    show _ = _ + (0 + _)
    omega
  obtain ⟨houtcomes, hproblems⟩ := ofTokens_locate_behind _ _ _ qs hplace
  have hatree := ofTokens_append (locate .start ps) [⟨.text .run x, p⟩] hnested
  have htree := ofTokens_append (locate .start ps)
    (⟨.text .run (x ++ y), p⟩ :: locate (p.advance (x ++ y)) qs) hnested
  rw [← hatokens, ofTokens_leaf_cons _ _ (hrun x p)] at hatree
  rw [← htokens, ofTokens_leaf_cons _ _ (hrun (x ++ y) p)] at htree
  have hbtree := ofTokens_leaf_cons _ (locate (Place.start.advance y) qs) (hrun y .start)
  rw [← hbtokens] at hbtree
  constructor
  · intro scope
    rw [htree, hatree, hbtree]
    let body := outcomes scope (Tree.ofTokens (locate .start ps)).nodes
    let rest := outcomes scope (Tree.ofTokens (locate (Place.start.advance y) qs)).nodes
    let run (z : List Char) : Rendered := ⟨.ok (String.ofList z), []⟩
    have hleaf : ∀ z place nodes, outcomes scope (Token.leaf ⟨.text .run z, place⟩ :: nodes) =
        (run z).append (outcomes scope nodes) := fun z place nodes => outcomes.eq_2 _ _ _
    calc outcomes scope _
        = body.append ((run (x ++ y)).append rest) := by
          rw [outcomes_append, hleaf, houtcomes]
      _ = (body.append ((run x).append .empty)).append ((run y).append rest) := by
          rw [Rendered.append_empty, Rendered.append_assoc]
          show body.append ((Rendered.mk (.ok (String.ofList (x ++ y))) []).append rest) = _
          rw [String.ofList_append, append_texts]
      _ = (outcomes scope _).append (outcomes scope _) := by
          rw [outcomes_append, hleaf, hleaf]
          rfl
  · rw [htree, hbtree]
    exact hproblems

/-- What is read of two templates put together follows from what is read of each, if the first one
stands for itself. -/
theorem follows_append (a b : String) (h : SelfContained a) : Follows a b (a ++ b) := by
  have htext : (a ++ b).toList = a.toList ++ b.toList := String.toList_append
  rcases pieces_seam a.toList b.toList (allClosed_of_tokens a h.closed) h.endsApart with
    hpieces | ⟨ps, x, y, qs, ha, hb, hpieces⟩
  · exact follows_of_pieces_append a b h (by rw [htext, hpieces])
  · exact follows_of_pieces_run a b h ps qs x y ha hb (by rw [htext, hpieces])

/-- The text of two outcomes one after another. -/
theorem text_append (r s : Rendered) :
    (r.append s).text = do
      let first ← r.text
      let second ← s.text
      return first ++ second := by
  obtain ⟨text, notes⟩ := r
  cases text with
  | error e => rfl
  | ok first =>
    show s.text.map (first ++ ·) = _
    cases s.text <;> rfl

/-- Rendering is a homomorphism: a template that stands for itself and any template behind it give
one text and then the other. The problems of the two together are those of the second one, in their
order, as far behind as the first one is long. -/
theorem renderText_append (a b : String) (h : SelfContained a) :
    (∀ scope, renderText scope (a ++ b) = do
      let first ← renderText scope a
      let second ← renderText scope b
      return first ++ second) ∧
    (Tree.ofTokens (tokenize (a ++ b)).tokens).problems.map
        (fun d => (d.message, d.place.offset)) =
      (Tree.ofTokens (tokenize b).tokens).problems.map
        (fun d => (d.message, a.length + d.place.offset)) := by
  obtain ⟨houtcomes, hproblems⟩ := follows_append a b h
  constructor
  · intro scope
    unfold renderText
    rw [renderIn_eq_outcomes, renderIn_eq_outcomes, renderIn_eq_outcomes, houtcomes, text_append]
  · -- a problem that is moved keeps its wording
    have hshown := congrArg (List.map fun d : Diagnostic => (d.message, d.place.offset)) hproblems
    rwa [List.map_map, List.map_map] at hshown

/-- A placeholder and a run of text before a template with a run at its start, a closing marker that
nothing waits for, a block that is not ended and a marker that is not closed. -/
theorem renderText_append_malformed :
    let scope : Scope := .root (.object [("x", .text "1")]) []
    let a := "\x7b\x7b x \x7d\x7d;"
    let b := ";\x7b% endif %\x7d\x7b% if y %\x7d\x7b\x7b z"
    SelfContained a ∧
      renderText scope (a ++ b) = .ok "1;;\x7b% endif %\x7d\x7b% if y %\x7d\x7b\x7b z" ∧
      (Tree.ofTokens (tokenize (a ++ b)).tokens).problems.map
          (fun d => (d.message, d.place.offset)) =
        [("Unexpected 'endif' without matching 'if'", 9), ("Unclosed 'if' block", 20)] := by
  intro scope a b
  have hatokens : (tokenize a).tokens =
      [⟨⟨.placeholder, "x", "\x7b\x7b x \x7d\x7d"⟩, ⟨0, 1, 1⟩⟩, ⟨⟨.run, ";", ";"⟩, ⟨7, 1, 8⟩⟩] := by
    decide +kernel
  have hbtokens : (tokenize b).tokens =
      [⟨⟨.run, ";", ";"⟩, ⟨0, 1, 1⟩⟩, ⟨⟨.directive, "endif", "\x7b% endif %\x7d"⟩, ⟨1, 1, 2⟩⟩,
        ⟨⟨.directive, "if y", "\x7b% if y %\x7d"⟩, ⟨12, 1, 13⟩⟩,
        ⟨⟨.openEnd, "\x7b\x7b z", "\x7b\x7b z"⟩, ⟨22, 1, 23⟩⟩] := by
    decide +kernel
  have hself : SelfContained a := by
    refine ⟨by simp [EndsApart, a], ?_, ?_⟩
    · rw [hatokens]
      decide
    · rw [hatokens]
      rfl
  have hbtree : Tree.ofTokens (tokenize b).tokens =
      ⟨[.text ";", .text "\x7b% endif %\x7d", .text "\x7b% if y %\x7d", .text "\x7b\x7b z"],
        [⟨.stray .conditional, ⟨1, 1, 2⟩⟩, ⟨.unclosed .conditional, ⟨12, 1, 13⟩⟩]⟩ := by
    have hendif : Directive.classify "endif" = some (.closing .conditional) := by decide
    have hif : Directive.classify "if y" = some (.opening (.conditional "y")) := by decide
    rw [hbtokens, Tree.ofTokens]
    simp only [List.foldl_cons, List.foldl_nil, Builder.read, hendif, hif]
    rfl
  obtain ⟨htext, hproblems⟩ := renderText_append a b hself
  refine ⟨hself, ?_, ?_⟩
  · have hlookup : scope.lookup "x" = .text "1" := by rfl
    have ha : renderText scope a = .ok ("1" ++ (";" ++ "")) := by
      rw [renderText, renderIn_eq_outcomes, hatokens]
      show ((Rendered.mk (Value.text? (scope.lookup "x")) []).append _).text = _
      rw [hlookup]
      rfl
    rw [htext, ha, renderText, renderIn_eq_outcomes, hbtree]
    rfl
  · rw [hproblems, hbtree]
    decide

end Stencil.Template
