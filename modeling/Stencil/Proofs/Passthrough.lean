import Mathlib.Data.List.Induction
import Mathlib.Data.List.Infix
import Stencil.Proofs.Concatenation
import Stencil.Proofs.TokenAlone
import Stencil.Proofs.TreeReads

/-!
# Templates without blocks

A template in whose tree there is no block is passed through: its tokens come out in their order,
each as its source text, and only placeholders are replaced. Markers may be wrong in every way.
What a builder gives up is spliced back where it stood: the marker of an open block as text, and the
body of the block behind it. So the nodes that would remain if all open blocks were given up at once
(`merge`) grow by one leaf for each token (`merge_step`), unless a block is ended, and the block
would then be there in the end.

## Key results

- `merge_step`: what one token adds, if no block comes of it.
- `nodes_ofTokens_of_isLeaf`: the tree of tokens, if it has no block.
- `isText_of_mem_pieces`: without a closed marker, all pieces are text.
- `render_verbatim`: what a template without blocks gives.
-/

namespace Stencil.Template

open Stencil.Text Stencil.Renderer

/-- The node is no block. -/
def Node.isLeaf : Node → Bool
  | text _ | placeholder _ _ => true
  | loop _ _ _ _ | conditional _ _ _ => false

theorem Node.isLeaf_block (offset : Nat) (body : List Node) (head : Head) :
    (block offset body head).isLeaf = false := by
  cases head <;> rfl

/-- A directive that is taken for text is its source text. -/
theorem Token.leaf_of_directive? (t : Token) (d : Directive) (h : t.directive? = some d) :
    t.leaf = .text t.raw := by
  unfold directive? at h
  unfold leaf
  cases hshape : t.shape with
  | directive => rfl
  | _ => rw [hshape] at h; cases h

namespace Builder

/-- What is added to the innermost body is added to what remains when all blocks are given up. -/
theorem merge_append (nodes body : List Node) (stack : List OpenBlock) :
    merge (nodes ++ body) stack = nodes ++ merge body stack := by
  induction stack generalizing body with
  | nil => rfl
  | cons top rest ih => rw [merge, merge, List.append_assoc, ih]

theorem merge_cons (node : Node) (body : List Node) (stack : List OpenBlock) :
    merge (node :: body) stack = node :: merge body stack :=
  merge_append [node] body stack

/-- A token adds its leaf to what remains when all blocks are given up, if no block is in that. -/
theorem merge_step (b b' : Builder) (t : Token) (h : Step b t b')
    (hleaf : ∀ node ∈ merge b'.body b'.stack, node.isLeaf = true) :
    merge b'.body b'.stack = t.leaf :: merge b.body b.stack := by
  cases h with
  | leaf hd => exact merge_cons t.leaf b.body b.stack
  | opening head hd =>
    -- the new block is given up at once, and its marker is text
    rw [t.leaf_of_directive? _ hd]
    exact merge_cons (.text t.raw) b.body b.stack
  | stray kind hd =>
    rw [t.leaf_of_directive? _ hd]
    exact merge_cons (.text t.raw) b.body b.stack
  | closing kind inner top outer hd =>
    -- a block that is ended is not given up any more
    have hblock := hleaf (.block top.token.offset (merge b.body inner).reverse top.head) (by
      unfold closed
      rw [merge_cons]
      exact List.mem_cons_self)
    rw [Node.isLeaf_block] at hblock
    cases hblock

/-- Tokens add their leaves in order, if no block is in what remains in the end. -/
theorem merge_foldl (b : Builder) (ts : List Token)
    (hleaf : ∀ node ∈ merge (ts.foldl read b).body (ts.foldl read b).stack,
      node.isLeaf = true) :
    merge (ts.foldl read b).body (ts.foldl read b).stack =
      (ts.map Token.leaf).reverse ++ merge b.body b.stack := by
  -- on the tokens from the last one back, since a block that is there stays
  induction ts using List.reverseRecOn with
  | nil => rfl
  | append_singleton ts t ih =>
    rw [List.foldl_append, List.foldl_cons, List.foldl_nil] at hleaf ⊢
    have hstep := merge_step _ _ t (read_step (ts.foldl read b) t) hleaf
    rw [hstep] at hleaf ⊢
    rw [ih fun node hnode => hleaf node (List.mem_cons_of_mem _ hnode), List.map_append,
      List.reverse_append]
    rfl

end Builder

/-- A tree without blocks has a leaf for each token, in order. -/
theorem nodes_ofTokens_of_isLeaf (ts : List Token)
    (hleaf : ∀ node ∈ (Tree.ofTokens ts).nodes, node.isLeaf = true) :
    (Tree.ofTokens ts).nodes = ts.map Token.leaf := by
  have hnodes : (Tree.ofTokens ts).nodes = (Builder.merge (ts.foldl Builder.read .start).body
      (ts.foldl Builder.read .start).stack).reverse := by
    rw [Tree.ofTokens, Builder.unwind_stack]
  rw [hnodes] at hleaf ⊢
  rw [Builder.merge_foldl .start ts fun node hnode => hleaf node (List.mem_reverse.2 hnode)]
  show ((ts.map Token.leaf).reverse ++ []).reverse = _
  rw [List.append_nil, List.reverse_reverse]

/-! ## What leaves give -/

/-- The text of a token that is passed through: of a placeholder the text of its value, and of all
else the source text. -/
def Token.passed (scope : Scope) (t : Token) : Except Overlong String :=
  match t.shape with
  | .placeholder => scope.lookupText t.value
  | _ => .ok t.raw

/-- The outcome of nodes is the outcomes of all of them, one after another. -/
theorem outcomes_eq_join (scope : Scope) (nodes : List Node) :
    outcomes scope nodes = .join (nodes.map (outcome scope)) := by
  induction nodes with
  | nil => rfl
  | cons node rest ih =>
    rw [outcomes, ih]
    rfl

/-- A leaf of a template gives the text of its token, and nothing is reported of it. -/
theorem outcome_leaf (scope : Scope) (body : String) (t : Token)
    (ht : t ∈ (tokenize body).tokens) : outcome scope t.leaf = ⟨t.passed scope, []⟩ := by
  have hpiece : t.toPiece ∈ pieces body.toList := by
    rw [← map_toPiece_tokenize]
    exact List.mem_map_of_mem ht
  -- what is text has its source text for its value
  have hvalue := value_eq_raw _ _ _ (readPiece?_of_mem_pieces _ _ hpiece)
  unfold Token.leaf Token.passed
  cases hshape : t.shape with
  | placeholder => rfl
  | directive => rfl
  | _ =>
    rw [hshape] at hvalue
    exact congrArg (fun content => Rendered.mk (.ok content) []) (hvalue rfl)

/-- The leaves of a template give the texts of its tokens. -/
theorem text_outcomes_leaves (scope : Scope) (body : String) :
    (outcomes scope ((tokenize body).tokens.map Token.leaf)).text =
      ((tokenize body).tokens.mapM (Token.passed scope)).map String.join := by
  have hleaves : (tokenize body).tokens.map (outcome scope ∘ Token.leaf) =
      (tokenize body).tokens.map fun t => ⟨t.passed scope, []⟩ :=
    List.map_congr_left fun t ht => outcome_leaf scope body t ht
  rw [outcomes_eq_join, Rendered.text_join, List.map_map, hleaves, List.mapM_map]
  rfl

/-! ## Without closed markers -/

/-- The closing mark stands somewhere behind the opening mark. -/
def Closes (opening closing s : List Char) : Prop :=
  ∃ before inner after, s = before ++ opening ++ inner ++ closing ++ after

/-- What closes stands in the text behind an opening mark. -/
theorem closes_iff (opening closing s : List Char) :
    Closes opening closing s ↔
      ∃ t ∈ s.tails, opening <+: t ∧ closing <:+: t.drop opening.length := by
  constructor
  · rintro ⟨before, inner, after, rfl⟩
    refine ⟨opening ++ (inner ++ closing ++ after), ?_, List.prefix_append _ _, ?_⟩
    · exact (List.mem_tails _ _).2 ⟨before, by simp only [List.append_assoc]⟩
    · rw [List.drop_left]
      exact ⟨inner, after, rfl⟩
  · rintro ⟨t, ht, ⟨rest, rfl⟩, hclosing⟩
    obtain ⟨before, rfl⟩ := (List.mem_tails _ _).1 ht
    rw [List.drop_left] at hclosing
    obtain ⟨inner, after, rfl⟩ := hclosing
    exact ⟨before, inner, after, by simp only [List.append_assoc]⟩

instance (opening closing s : List Char) : Decidable (Closes opening closing s) :=
  decidable_of_iff' _ (closes_iff opening closing s)

theorem closes_append (opening closing front s : List Char) (h : Closes opening closing s) :
    Closes opening closing (front ++ s) := by
  obtain ⟨before, inner, after, rfl⟩ := h
  exact ⟨front ++ before, inner, after, by simp only [List.append_assoc]⟩

/-- Without a closed marker, all pieces of a text stand for themselves. -/
theorem isText_of_mem_pieces (s : List Char) (hbraces : ¬ Closes ['{', '{'] ['}', '}'] s)
    (hdirective : ¬ Closes ['{', '%'] ['%', '}'] s) : ∀ p ∈ pieces s, p.shape.isText = true := by
  fun_induction pieces s with
  | case1 s h => simp
  | case2 s p rest h _ ih =>
    have hrest := eq_append_of_readPiece? s rest p h
    intro q hq
    rcases List.mem_cons.1 hq with rfl | hq
    · cases readsPiece_of_readPiece? s rest q h with
      | braced r inner rest hc =>
        refine absurd ⟨[], inner, rest, ?_⟩ hbraces
        rw [eq_append_of_cut? hc]
        simp
      | directive r inner rest hc =>
        refine absurd ⟨[], inner, rest, ?_⟩ hdirective
        rw [eq_append_of_cut? hc]
        simp
      | openEnd | loneOpening | run => rfl
    · -- what is closed further on is closed in the whole text
      refine ih (fun hr => hbraces ?_) (fun hr => hdirective ?_) q hq
      · rw [hrest]
        exact closes_append _ _ _ _ hr
      · rw [hrest]
        exact closes_append _ _ _ _ hr

/-- Tokens that are text have a tree of leaves. -/
theorem nodes_ofTokens_of_isText (ts : List Token) (h : ∀ t ∈ ts, t.shape.isText = true) :
    (Tree.ofTokens ts).nodes = ts.map Token.leaf := by
  induction ts with
  | nil => rfl
  | cons t ts ih =>
    have hd := t.directive?_of_isText (h t List.mem_cons_self)
    rw [ofTokens_leaf_cons t ts hd, ih fun u hu => h u (List.mem_cons_of_mem t hu)]
    rfl

/-- Tokens that are text give their source texts. -/
theorem mapM_passed_of_isText (scope : Scope) (ts : List Token)
    (h : ∀ t ∈ ts, t.shape.isText = true) :
    ts.mapM (Token.passed scope) = .ok (ts.map (·.raw)) := by
  induction ts with
  | nil => rfl
  | cons t ts ih =>
    have hpassed : t.passed scope = .ok t.raw := by
      have htext := h t List.mem_cons_self
      unfold Token.passed
      cases hshape : t.shape with
      | placeholder => rw [hshape] at htext; cases htext
      | _ => rfl
    rw [List.mapM_cons, hpassed, ih fun u hu => h u (List.mem_cons_of_mem t hu)]
    rfl

/-- The source texts of the tokens of a text are the text. -/
theorem join_raw_tokenize (body : String) :
    String.join ((tokenize body).tokens.map (·.raw)) = body := by
  have hraw : (tokenize body).tokens.map (·.raw) = (pieces body.toList).map (·.raw) := by
    rw [← map_toPiece_tokenize, List.map_map]
    rfl
  have hflat := flatten_raw_pieces body.toList
  rw [← String.toList_inj, String.toList_join, hraw, List.flatMap_map]
  exact hflat

/-- Templates without blocks are passed through. If there is no block in the tree of a template, the
rendering gives the tokens of the template in their order, each as its source text, and for a
placeholder the text of its value; whatever is wrong with the markers. A template in whose body no
opening marker has a closing one behind it gives that body. -/
theorem render_verbatim (source : String) (useDefaults : Bool) (data : Value) :
    let t := parse source
    ((∀ node ∈ t.nodes, node.isLeaf = true) →
      (t.render useDefaults data).text =
        ((tokenize t.body).tokens.mapM (Token.passed
          (.root data (t.withDefaults useDefaults).defaults))).map String.join) ∧
    (¬ Closes ['{', '{'] ['}', '}'] t.body.toList → ¬ Closes ['{', '%'] ['%', '}'] t.body.toList →
      (t.render useDefaults data).text = .ok t.body) := by
  intro t
  have hnodes : t.nodes = (Tree.ofTokens (tokenize t.body).tokens).nodes := rfl
  -- in either case the tree has a leaf for each token
  have hpassed : t.nodes = (tokenize t.body).tokens.map Token.leaf →
      (t.render useDefaults data).text =
        ((tokenize t.body).tokens.mapM (Token.passed
          (.root data (t.withDefaults useDefaults).defaults))).map String.join := by
    intro h
    rw [render, renderIn_eq_outcomes, h, text_outcomes_leaves]
  constructor
  · intro hleaf
    exact hpassed (nodes_ofTokens_of_isLeaf _ hleaf)
  · intro hbraces hdirective
    have htext : ∀ u ∈ (tokenize t.body).tokens, u.shape.isText = true := by
      intro u hu
      refine isText_of_mem_pieces _ hbraces hdirective u.toPiece ?_
      rw [← map_toPiece_tokenize]
      exact List.mem_map_of_mem hu
    rw [hpassed (hnodes.trans (nodes_ofTokens_of_isText _ htext)), mapM_passed_of_isText _ _ htext]
    exact congrArg Except.ok (join_raw_tokenize t.body)

/-- An unknown directive, a closing marker that nothing waits for, an empty placeholder, a
placeholder in a block that is not ended, and a marker that is not closed; and a text with all marks
where only the closing ones come first. -/
theorem render_verbatim_degraded :
    let data : Value := .object [("x", .text "7")]
    let source :=
      "\x7b%else%\x7d\x7b%endif%\x7d\x7b\x7b\x7d\x7d\x7b%if y%\x7d\x7b\x7bx\x7d\x7d\x7b\x7b z"
    let marks := "\x7d\x7d%\x7d\x7b%\x7b\x7b"
    (∀ node ∈ (parse source).nodes, node.isLeaf = true) ∧
      ((parse source).render true data).text =
        .ok "\x7b%else%\x7d\x7b%endif%\x7d\x7b\x7b\x7d\x7d\x7b%if y%\x7d7\x7b\x7b z" ∧
      ((parse marks).render true data).text = .ok marks := by
  intro data source marks
  have hblock : cut? Defaults.openingMarker source.toList = none := by decide +kernel
  have htokens : (tokenize source).tokens = [
      ⟨⟨.directive, "else", "\x7b%else%\x7d"⟩, ⟨0, 1, 1⟩⟩,
      ⟨⟨.directive, "endif", "\x7b%endif%\x7d"⟩, ⟨8, 1, 9⟩⟩,
      ⟨⟨.blankPlaceholder, "\x7b\x7b\x7d\x7d", "\x7b\x7b\x7d\x7d"⟩, ⟨17, 1, 18⟩⟩,
      ⟨⟨.directive, "if y", "\x7b%if y%\x7d"⟩, ⟨21, 1, 22⟩⟩,
      ⟨⟨.placeholder, "x", "\x7b\x7bx\x7d\x7d"⟩, ⟨29, 1, 30⟩⟩,
      ⟨⟨.openEnd, "\x7b\x7b z", "\x7b\x7b z"⟩, ⟨34, 1, 35⟩⟩] := by decide +kernel
  have helse : Directive.classify "else" = none := by decide
  have hendif : Directive.classify "endif" = some (.closing .conditional) := by decide
  have hif : Directive.classify "if y" = some (.opening (.conditional "y")) := by decide
  have hleaf : ∀ node ∈ (parse source).nodes, node.isLeaf = true := by
    rw [parse_of_cut?_eq_none source hblock, htokens, Tree.ofTokens]
    simp only [List.foldl_cons, List.foldl_nil, Builder.read, helse, hendif, hif]
    decide
  refine ⟨hleaf, ?_, ?_⟩
  · have hlookup : (Scope.root data []).lookup "x" = .text "7" := by rfl
    rw [(render_verbatim source true data).1 hleaf, parse_of_cut?_eq_none source hblock, htokens]
    simp only [List.mapM_cons, List.mapM_nil, Token.passed, withDefaults, if_true,
      Scope.lookupText, hlookup]
    rfl
  · have hmarks : cut? Defaults.openingMarker marks.toList = none := by decide +kernel
    have hbody : (parse marks).body = marks := by rw [parse_of_cut?_eq_none marks hmarks]
    have h := (render_verbatim marks true data).2 (by rw [hbody]; decide) (by rw [hbody]; decide)
    rwa [hbody] at h

end Stencil.Template
