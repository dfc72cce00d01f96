import Mathlib.Data.List.Nodup
import Mathlib.Data.List.Perm.Subperm
import Stencil.Proofs.ProblemMarkers
import Stencil.Proofs.TokenTiling

/-!
# Repairing the nesting of a template

A lenient reading turns the markers it reports into text. So if those markers are made text before
the reading, a strict reading of what results has to meet no problem and to build the same tree.

The two readings are run side by side. The lenient one has blocks on its stack that it will give up
later; the strict one never opened them. `Builder.without` takes these doomed blocks off the stack
of the lenient reading, and the strict reading is at that state at every step. Which blocks are
doomed only the end of the lenient reading tells, so the set of doomed offsets is a parameter that
the whole run has to agree with. What keeps the two in step is that no block that was ended can be
doomed later, which `Builder.pending` gives: the offsets that are reported or may still be reported
because their block is open are all distinct, and an ended block leaves them for good.

## Key results

- `foldlM_readStrict_repair`: the strict reading of repaired tokens simulates the lenient one.
- `ofTokensStrict_repair`: the repair law for lists of tokens at distinct offsets.
- `repair_template`: the repair law for templates.
-/

namespace Stencil.Template

open scoped List

/-- The offsets of the markers that problems are about. -/
def offsets (ds : List Diagnostic) : List Nat := ds.map (·.place.offset)

/-- A token that stands for its source text. -/
def Token.asText (t : Token) : Token := ⟨.text .run t.raw.toList, t.place⟩

/-- Makes text of the tokens at the given offsets. -/
def repair (doomed : List Nat) (ts : List Token) : List Token :=
  ts.map fun t => if t.offset ∈ doomed then t.asText else t

theorem Token.directive?_asText (t : Token) : t.asText.directive? = none := rfl

theorem Token.leaf_asText (t : Token) : t.asText.leaf = .text t.raw := by
  show Node.text (String.ofList t.raw.toList) = _
  rw [String.ofList_toList]

namespace Builder

/-- The builder at the end of a reading. -/
def finish (b : Builder) : Builder := b.unwind b.stack

/-- The builder at the end of reading the given tokens from here on. -/
def readAll (b : Builder) (ts : List Token) : Builder := (ts.foldl read b).finish

theorem readAll_cons (b : Builder) (t : Token) (ts : List Token) :
    b.readAll (t :: ts) = (b.read t).readAll ts := rfl

/-! ## Which offsets are reported -/

/-- The offsets of the markers that are reported, and of those that will be if their block is
not ended. -/
def pending (b : Builder) : List Nat := offsets b.problems ++ b.stack.map (·.token.offset)

theorem offsets_map_crossing (kind : BlockKind) (fs : List OpenBlock) :
    offsets (fs.map (crossing kind)) = fs.map (·.token.offset) := by
  rw [offsets, List.map_map]
  rfl

theorem offsets_map_unclosing (fs : List OpenBlock) :
    offsets (fs.map unclosing) = fs.map (·.token.offset) := by
  rw [offsets, List.map_map]
  rfl

theorem offsets_reverse_append (ds es : List Diagnostic) :
    offsets (ds.reverse ++ es) = (offsets ds).reverse ++ offsets es := by
  rw [offsets, List.map_append, List.map_reverse]
  rfl

/-- What is pending after a block was ended. -/
theorem pending_closed (b : Builder) (kind : BlockKind) (inner : List OpenBlock)
    (top : OpenBlock) (outer : List OpenBlock) :
    (b.closed kind inner top outer).pending ~
      offsets b.problems ++ inner.map (·.token.offset) ++ outer.map (·.token.offset) := by
  unfold closed pending
  rw [offsets_reverse_append, offsets_map_crossing]
  refine List.Perm.append_right _ ?_
  exact List.perm_append_comm.trans ((List.reverse_perm _).append_left _)

/-- A step makes at most the offset of its token pending. -/
theorem pending_subperm (b b' : Builder) (t : Token) (h : Step b t b') :
    b'.pending <+~ t.offset :: b.pending := by
  cases h with
  | leaf => exact (List.sublist_cons_self _ _).subperm
  | opening head => exact List.perm_middle.subperm
  | stray kind => exact List.Subperm.refl _
  | closing kind inner top outer _ hstack =>
    -- the offset of the block that was ended is no longer pending
    refine (pending_closed b kind inner top outer).subperm.trans ?_
    refine List.Sublist.subperm ?_
    rw [pending, hstack, List.map_append, List.map_cons, List.append_assoc]
    exact ((List.sublist_cons_self _ _).append_left _).append_left _ |>.cons _

/-- At the end, what was pending is reported. -/
theorem offsets_finish (b : Builder) : offsets b.finish.problems ~ b.pending := by
  rw [finish, unwind_stack, offsets_reverse_append, offsets_map_unclosing]
  exact List.perm_append_comm.trans ((List.reverse_perm _).append_left _)

/-- What a reading reports was pending, or is the offset of a token to come. -/
theorem offsets_readAll (b : Builder) (ts : List Token) :
    offsets (b.readAll ts).problems <+~ b.pending ++ ts.map (·.offset) := by
  -- on the tokens; each step moves the offset of its token to the pending ones, at most
  induction ts generalizing b with
  | nil =>
    rw [List.map_nil, List.append_nil]
    exact (offsets_finish b).subperm
  | cons t ts ih =>
    rw [readAll_cons, List.map_cons]
    refine (ih (b.read t)).trans ?_
    refine ((pending_subperm b _ t (read_step b t)).append (List.Subperm.refl _)).trans ?_
    exact List.perm_middle.symm.subperm

/-- What is reported stays reported. -/
theorem problems_suffix_readAll (b : Builder) (ts : List Token) :
    b.problems <:+ (b.readAll ts).problems :=
  (problems_suffix_foldl b ts).trans (problems_suffix_unwind (ts.foldl read b))

theorem mem_offsets_readAll (b : Builder) (ts : List Token) (k : Nat)
    (h : k ∈ offsets b.problems) : k ∈ offsets (b.readAll ts).problems := by
  obtain ⟨d, hd, rfl⟩ := List.mem_map.1 h
  exact List.mem_map_of_mem ((problems_suffix_readAll b ts).subset hd)

/-! ## The strict reading beside the lenient one -/

/-- A body and the open blocks around it without the doomed ones: their markers are text, and what
stood in them stands in the body around them. -/
def strip (doomed : List Nat) (body : List Node) : List OpenBlock → List Node × List OpenBlock
  | [] => (body, [])
  | top :: rest =>
    if top.token.offset ∈ doomed then strip doomed (body ++ .text top.token.raw :: top.before) rest
    else
      let (before, outer) := strip doomed top.before rest
      (body, ⟨top.token, top.head, before⟩ :: outer)

/-- A builder that never opened the doomed blocks, and reported nothing. -/
def without (b : Builder) (doomed : List Nat) : Builder :=
  ⟨(strip doomed b.body b.stack).1, (strip doomed b.body b.stack).2, []⟩

/-- What is added to the innermost body stays in front of it. -/
theorem strip_append (doomed : List Nat) (nodes body : List Node) (stack : List OpenBlock) :
    strip doomed (nodes ++ body) stack =
      (nodes ++ (strip doomed body stack).1, (strip doomed body stack).2) := by
  induction stack generalizing body with
  | nil => rfl
  | cons top rest ih =>
    unfold strip
    split
    · rw [List.append_assoc, ih]
    · rfl

/-- Blocks that are all doomed are given up. -/
theorem strip_doomed_append (doomed : List Nat) (body : List Node) (inner outer : List OpenBlock)
    (h : ∀ f ∈ inner, f.token.offset ∈ doomed) :
    strip doomed body (inner ++ outer) = strip doomed (merge body inner) outer := by
  induction inner generalizing body with
  | nil => rfl
  | cons f inner ih =>
    rw [List.cons_append, strip, if_pos (h f List.mem_cons_self), merge]
    exact ih _ fun g hg => h g (List.mem_cons_of_mem f hg)

theorem without_add (b : Builder) (doomed : List Nat) (node : Node) :
    (b.add node).without doomed = (b.without doomed).add node := by
  -- the node stays in front of the body that remains
  have h := strip_append doomed [node] b.body b.stack
  rw [List.singleton_append] at h
  unfold without add
  dsimp only
  rw [h]
  rfl

/-- A doomed block is text from the start. -/
theorem without_enter_of_mem (b : Builder) (doomed : List Nat) (t : Token) (head : Head)
    (h : t.offset ∈ doomed) :
    (b.enter t head).without doomed = (b.without doomed).add (.text t.raw) := by
  have h' := strip_append doomed [.text t.raw] b.body b.stack
  rw [List.singleton_append] at h'
  unfold without enter add
  dsimp only
  rw [strip, if_pos h, List.nil_append, h']
  rfl

/-- Any other block is opened. -/
theorem without_enter_of_not_mem (b : Builder) (doomed : List Nat) (t : Token) (head : Head)
    (h : t.offset ∉ doomed) :
    (b.enter t head).without doomed = (b.without doomed).enter t head := by
  unfold without enter
  dsimp only
  rw [strip, if_neg h]

/-- When a block is ended of which all inner ones are doomed, it is the innermost one left, and
ending it is what remains to do. -/
theorem closeStrict_without (b : Builder) (doomed : List Nat) (t : Token) (kind : BlockKind)
    (inner : List OpenBlock) (top : OpenBlock) (outer : List OpenBlock)
    (hstack : b.stack = inner ++ top :: outer) (htop : top.head.kind = kind)
    (hdoomed : ∀ f ∈ inner, f.token.offset ∈ doomed) (hkept : top.token.offset ∉ doomed) :
    (b.without doomed).closeStrict t kind =
      .ok ((b.closed kind inner top outer).without doomed) := by
  have hstrip : strip doomed b.body b.stack = (merge b.body inner,
      ⟨top.token, top.head, (strip doomed top.before outer).1⟩ ::
        (strip doomed top.before outer).2) := by
    rw [hstack, strip_doomed_append doomed b.body inner _ hdoomed, strip, if_neg hkept]
  have hclosed := strip_append doomed
    [.block top.token.offset (merge b.body inner).reverse top.head] top.before outer
  rw [List.singleton_append] at hclosed
  unfold without
  rw [hstrip]
  unfold closeStrict closed
  dsimp only
  rw [if_pos htop, hclosed]
  rfl

/-- Reading a token strictly, by the directive that it is. -/
theorem readStrict_eq (b : Builder) (t : Token) :
    b.readStrict t = match t.directive? with
      | some (.opening head) => .ok (b.enter t head)
      | some (.closing kind) => b.closeStrict t kind
      | none => .ok (b.add t.leaf) := by
  unfold readStrict
  rw [read_eq]
  cases t.directive? with
  | none => rfl
  | some d => cases d <;> rfl

/-- One step of the two readings: the strict reading of the repaired token follows the lenient
reading of the token. The step has to agree with the doomed offsets: what it reports is doomed, and
what it reports no more, nor leaves open, is not. -/
theorem readStrict_without (b b' : Builder) (t : Token) (doomed : List Nat) (h : Step b t b')
    (hreported : ∀ k ∈ offsets b'.problems, k ∈ doomed)
    (hdistinct : (t.offset :: b.pending).Nodup)
    (hdoomed : ∀ k ∈ t.offset :: b.pending, k ∈ doomed → k ∈ b'.pending) :
    (b.without doomed).readStrict (if t.offset ∈ doomed then t.asText else t) =
      .ok (b'.without doomed) := by
  obtain ⟨ht, hpending⟩ := List.nodup_cons.1 hdistinct
  cases h with
  | leaf hd =>
    -- the token is not pending before or after, so it is not doomed
    have hk : t.offset ∉ doomed := fun hm => ht (hdoomed _ List.mem_cons_self hm)
    rw [if_neg hk, readStrict_eq, hd, without_add]
  | opening head hd =>
    -- the strict reading opens the block if it will be ended
    by_cases hm : t.offset ∈ doomed
    · rw [if_pos hm, readStrict_eq, Token.directive?_asText, Token.leaf_asText]
      exact congrArg _ (without_enter_of_mem b doomed t head hm).symm
    · rw [if_neg hm, readStrict_eq, hd]
      exact congrArg _ (without_enter_of_not_mem b doomed t head hm).symm
  | stray kind hd =>
    -- a stray marker is reported at once
    have hm : t.offset ∈ doomed := hreported _ List.mem_cons_self
    rw [if_pos hm, readStrict_eq, Token.directive?_asText, Token.leaf_asText]
    show Except.ok _ = Except.ok (((b.report _).add _).without doomed)
    rw [without_add]
    rfl
  | closing kind inner top outer hd hstack hinner htop =>
    have hmem : ∀ f ∈ b.stack, f.token.offset ∈ b.pending := fun f hf =>
      List.mem_append_right _ (List.mem_map_of_mem hf)
    -- what is pending after the step was pending before it, without the block that is ended
    have hafter := (pending_closed b kind inner top outer).subset
    have hsplit : b.pending ~ top.token.offset ::
        (offsets b.problems ++ inner.map (·.token.offset) ++ outer.map (·.token.offset)) := by
      rw [pending, hstack, List.map_append, List.map_cons, ← List.append_assoc]
      exact List.perm_middle
    have htopne : top.token.offset ∉ (b.closed kind inner top outer).pending := fun hp =>
      (List.nodup_cons.1 (hsplit.nodup_iff.1 hpending)).1 (hafter hp)
    have hkept : top.token.offset ∉ doomed := fun hm =>
      htopne (hdoomed _ (List.mem_cons_of_mem _ (hmem top (by simp [hstack]))) hm)
    -- the closing marker itself is not pending, before or after
    have hk : t.offset ∉ doomed := fun hm =>
      ht (hsplit.mem_iff.2 (List.mem_cons_of_mem _ (hafter (hdoomed _ List.mem_cons_self hm))))
    -- the blocks inside are reported as crossed
    have hgiven : ∀ f ∈ inner, f.token.offset ∈ doomed := by
      intro f hf
      refine hreported _ (List.mem_map.2 ⟨crossing kind f, ?_, rfl⟩)
      exact List.mem_append_left _ (List.mem_reverse.2 (List.mem_map_of_mem hf))
    rw [if_neg hk, readStrict_eq, hd]
    exact closeStrict_without b doomed t kind inner top outer hstack htop hgiven hkept

/-- The whole reading: the strict reading of the repaired tokens follows the lenient reading of the
tokens, if the doomed offsets are those that are reported in the end. -/
theorem foldlM_readStrict_repair (doomed : List Nat) (b : Builder) (ts : List Token)
    (hdoomed : ∀ k, k ∈ doomed ↔ k ∈ offsets (b.readAll ts).problems)
    (hdistinct : (b.pending ++ ts.map (·.offset)).Nodup) :
    (repair doomed ts).foldlM readStrict (b.without doomed) =
      .ok ((ts.foldl read b).without doomed) := by
  -- on the tokens, for every builder that the lenient reading may have come to
  induction ts generalizing b with
  | nil => rfl
  | cons t ts ih =>
    rw [readAll_cons] at hdoomed
    have hperm : b.pending ++ (t :: ts).map (·.offset) ~
        (t.offset :: b.pending) ++ ts.map (·.offset) := List.perm_middle
    have hdistinct' := hperm.nodup_iff.1 hdistinct
    have hsub := pending_subperm b (b.read t) t (read_step b t)
    -- what is reported from here on is pending now or comes later
    have hlater : ∀ k ∈ t.offset :: b.pending, k ∈ doomed → k ∈ (b.read t).pending := by
      intro k hk hm
      have hmem := (offsets_readAll (b.read t) ts).subset ((hdoomed k).1 hm)
      refine (List.mem_append.1 hmem).resolve_right fun hts => ?_
      exact List.disjoint_of_nodup_append hdistinct' hk hts
    have hstep := readStrict_without b _ t doomed (read_step b t)
      (fun k hk => (hdoomed k).2 (mem_offsets_readAll _ ts k hk))
      (List.Nodup.of_append_left hdistinct') hlater
    obtain ⟨l, hl, hsublist⟩ := hsub.append (List.Subperm.refl (ts.map (·.offset)))
    have hrest := ih (b.read t) hdoomed (hl.nodup_iff.1 (hdistinct'.sublist hsublist))
    rw [repair, List.map_cons, List.foldlM_cons, hstep]
    exact hrest

/-- At the end of the reading all open blocks are doomed, and the strict reading has none. -/
theorem finishStrict_without (doomed : List Nat) (b : Builder)
    (hdoomed : ∀ k ∈ offsets b.finish.problems, k ∈ doomed) :
    (b.without doomed).finishStrict = .ok b.finish.body.reverse := by
  have hstack : ∀ f ∈ b.stack, f.token.offset ∈ doomed := fun f hf =>
    hdoomed _ ((offsets_finish b).mem_iff.2
      (List.mem_append_right _ (List.mem_map_of_mem hf)))
  have hstrip : strip doomed b.body b.stack = (merge b.body b.stack, []) := by
    have := strip_doomed_append doomed b.body b.stack [] hstack
    rwa [List.append_nil] at this
  rw [finish, unwind_stack, without, hstrip]
  rfl

end Builder

/-! ## The repair law -/

theorem mem_offsets_reverse (ds : List Diagnostic) (k : Nat) :
    k ∈ offsets ds.reverse ↔ k ∈ offsets ds := by
  rw [offsets, List.map_reverse, List.mem_reverse, offsets]

/-- A lenient reading of tokens at distinct offsets, and a strict reading of the tokens with the
reported ones made text, build the same tree. -/
theorem ofTokensStrict_repair (ts : List Token) (hdistinct : (ts.map (·.offset)).Nodup) :
    Tree.ofTokensStrict (repair (offsets (Tree.ofTokens ts).problems) ts) =
      .ok (Tree.ofTokens ts).nodes := by
  have hdoomed : ∀ k, k ∈ offsets (Tree.ofTokens ts).problems ↔
      k ∈ offsets (Builder.start.readAll ts).problems := mem_offsets_reverse _
  have hrun := Builder.foldlM_readStrict_repair _ .start ts hdoomed hdistinct
  -- a builder that has done nothing has no doomed block to take off
  have hstart : Builder.start.without (offsets (Tree.ofTokens ts).problems) = .start := rfl
  rw [hstart] at hrun
  rw [Tree.ofTokensStrict, hrun]
  exact Builder.finishStrict_without _ _ fun k hk => (hdoomed k).2 hk

/-- The offsets of the reported markers are distinct if those of the tokens are. -/
theorem nodup_offsets_problems (ts : List Token) (hdistinct : (ts.map (·.offset)).Nodup) :
    (offsets (Tree.ofTokens ts).problems).Nodup := by
  obtain ⟨l, hl, hsub⟩ := Builder.offsets_readAll .start ts
  have hnodup := hl.nodup_iff.1 (List.Nodup.sublist hsub hdistinct)
  show (offsets (Builder.start.readAll ts).problems.reverse).Nodup
  rw [offsets, List.map_reverse]
  exact List.nodup_reverse.2 hnodup

/-- A reported marker is a directive of the template. -/
theorem exists_directive_of_mem_problems (ts : List Token) (d : Diagnostic)
    (h : d ∈ (Tree.ofTokens ts).problems) :
    ∃ t ∈ ts, t.place = d.place ∧ t.directive?.isSome = true := by
  obtain ⟨t, ht, hplace, directive, hd, -⟩ := exists_marker_of_mem_problems ts d h
  exact ⟨t, ht, hplace, by simp [hd]⟩

/-- The repair law. Reading a template leniently degrades the markers it reports and nothing else:
with just these made text, the same tokens have no problem of nesting, and are read as the same
tree. What is reported is directives of the template, each by the place of the one token that stands
there, and none twice. -/
theorem repair_template (text : String) :
    let ts := (tokenize text).tokens
    let tree := Tree.ofTokens ts
    Tree.ofTokensStrict (repair (offsets tree.problems) ts) = .ok tree.nodes ∧
      (offsets tree.problems).Nodup ∧
      ∀ d ∈ tree.problems, ∃ t ∈ ts, t.place = d.place ∧ t.directive?.isSome = true ∧
        ∀ u ∈ ts, u.offset = d.place.offset → u = t := by
  intro ts tree
  have hdistinct : (ts.map (·.offset)).Nodup :=
    (pairwise_offset_tokenize text).imp fun h => Nat.ne_of_lt h
  refine ⟨ofTokensStrict_repair ts hdistinct, nodup_offsets_problems ts hdistinct, ?_⟩
  intro d hd
  obtain ⟨t, ht, hplace, hdir⟩ := exists_directive_of_mem_problems ts d hd
  refine ⟨t, ht, hplace, hdir, fun u hu hoff => ?_⟩
  -- distinct offsets tell the tokens apart
  refine List.inj_on_of_nodup_map hdistinct hu ht ?_
  show u.offset = t.place.offset
  rw [hoff, hplace]

end Stencil.Template
