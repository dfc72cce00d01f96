import Stencil.Proofs.BlankBlock
import Stencil.Proofs.BlankDefaults
import Stencil.Proofs.Concatenation

/-!
# Scaffolding

A template without a defaults block gets one that names all its top-level variables, and gives the
same as before, two line feeds further down. If the names are dotted paths, the block is read as it
was written (`extract_scaffold`). What is left without the block is the template behind two line
feeds, so all it mentions is two characters further behind (`filterMap_tokenize_behind`). And blank
defaults do not show in what is rendered, where no condition reads the names.

The template itself may hold a marker of a defaults block, as long as the block is not complete: the
new block comes first, and only the first one counts.

## Key results

- `extract_scaffold`: the defaults and the body of a template with a scaffold.
- `filterMap_tokenize_behind`: what is told by tokens that are no text, behind a run of text.
- `render_scaffold`: a scaffold does not change what a template gives.
-/

namespace Stencil.Template

open Stencil.Text Stencil.Renderer

/-! ## Dotted paths as names -/

/-- The characters of a dotted path: those of words, and the dots between them. -/
def IsPathCharacter (c : Char) : Prop := isWord c = true ∨ c = '.'

theorem not_isBlank_of_isPathCharacter (c : Char) (h : IsPathCharacter c) : isBlank c = false := by
  rcases h with hword | rfl
  · exact Directive.not_isBlank_of_isWord c hword
  · decide

theorem ne_of_isPathCharacter (c d : Char) (h : IsPathCharacter c) (hd : isWord d = false)
    (hdot : d ≠ '.') : c ≠ d := by
  rintro rfl
  rcases h with hword | rfl
  · rw [hd] at hword
    cases hword
  · exact hdot rfl

/-- A dotted path can be written in a line of a defaults block. -/
theorem isWritable_of_isPathCharacter (name : String) (h : ∀ c ∈ name.toList, IsPathCharacter c) :
    Defaults.IsWritable name := by
  have hlacks : ∀ d, isWord d = false → d ≠ '.' → d ∉ name.toList := fun d hd hdot hmem =>
    ne_of_isPathCharacter d d (h d hmem) hd hdot rfl
  constructor
  · exact hlacks ':' (by decide) (by decide)
  · exact fun hsign => hlacks '#' (by decide) (by decide) (List.mem_of_mem_head? hsign)
  · exact fun c hc => not_isLineBreak_of_not_isBlank c (not_isBlank_of_isPathCharacter c (h c hc))
  · exact fun hclosing => hlacks '{' (by decide) (by decide)
      (hclosing.subset (show '{' ∈ Defaults.closingMarker by decide))

/-! ## Behind a run of text -/

/-- A run of text before a template is its first token, or the first characters of its first
token; all tokens behind that are further behind. -/
theorem exists_tokens_behind (a b : String) (ha : pieces a.toList = [.text .run a.toList])
    (hends : EndsApart a.toList) :
    ∃ z p q front rest, (tokenize (a ++ b)).tokens = ⟨.text .run z, .start⟩ :: locate p rest ∧
      (tokenize b).tokens = front ++ locate q rest ∧ (∀ t ∈ front, t.shape.isText = true) ∧
      p.offset = a.length + q.offset := by
  have hclosed : AllClosed (pieces a.toList) := by
    rw [ha]
    intro p hp
    rw [List.mem_singleton.1 hp]
    exact ⟨Shape.noConfusion, Shape.noConfusion⟩
  have hraw : ∀ z, (Piece.text .run z).raw.toList = z := fun z => by
    rw [Piece.raw_text, String.toList_ofList]
  rcases pieces_seam a.toList b.toList hclosed hends with hpieces | ⟨ps, x, y, qs, hx, hy, hpieces⟩
  · refine ⟨a.toList, Place.start.advance a.toList, .start, [], pieces b.toList, ?_, rfl,
      fun t ht => (List.not_mem_nil ht).elim, ?_⟩
    · rw [tokenize, String.toList_append, hpieces, ha, List.singleton_append, locate, hraw]
    · rw [Place.offset_advance, String.length_toList, Nat.add_comm]
  · -- the run goes on in the template
    obtain ⟨rfl, hrun⟩ : ps = [] ∧ [Piece.text .run x] = [Piece.text .run a.toList] :=
      List.append_inj' (hx.symm.trans ha) rfl
    have hxa : x = a.toList := by
      rw [← hraw x, List.singleton_inj.1 hrun, hraw]
    subst hxa
    refine ⟨a.toList ++ y, Place.start.advance (a.toList ++ y), Place.start.advance y,
      [⟨.text .run y, .start⟩], qs, ?_, ?_, ?_, ?_⟩
    · rw [tokenize, String.toList_append, hpieces, List.nil_append, locate, hraw]
    · rw [tokenize, hy, locate, hraw, List.singleton_append]
    · intro t ht
      rw [List.mem_singleton.1 ht]
      rfl
    · rw [Place.offset_advance, Place.offset_advance, List.length_append, String.length_toList]
      show 0 + _ = _ + (0 + _)
      omega

/-- What is told of a template by its tokens that are no text is told of them a run of text further
behind. -/
theorem filterMap_tokenize_behind {α : Type} (a b : String)
    (ha : pieces a.toList = [.text .run a.toList]) (hends : EndsApart a.toList)
    (f : Token → Option α) (g : α → α) (htext : ∀ t : Token, t.shape.isText = true → f t = none)
    (hforget : ∀ t : Token, f (t.relocate id) = f t)
    (hbehind : ∀ t : Token, f (t.relocate (a.length + ·)) = (f t).map g) :
    (tokenize (a ++ b)).tokens.filterMap f = ((tokenize b).tokens.filterMap f).map g := by
  obtain ⟨z, p, q, front, rest, hab, hb, hfront, hplace⟩ := exists_tokens_behind a b ha hends
  have hmoved := map_relocate_locate id (a.length + ·) p q rest fun n => by
    show p.offset + n = a.length + (q.offset + n)
    omega
  have hnone : front.filterMap f = [] :=
    List.filterMap_eq_nil_iff.2 fun t ht => htext t (hfront t ht)
  calc (tokenize (a ++ b)).tokens.filterMap f
      = ((locate p rest).map (Token.relocate id)).filterMap f := by
        rw [hab, List.filterMap_cons_none (htext _ rfl), List.filterMap_map]
        exact congrArg (List.filterMap · _) (funext fun t => (hforget t).symm)
    _ = ((locate q rest).filterMap f).map g := by
        rw [hmoved, List.filterMap_map, List.map_filterMap]
        exact congrArg (List.filterMap · _) (funext hbehind)
    _ = ((tokenize b).tokens.filterMap f).map g := by
        rw [hb, List.filterMap_append, hnone, List.nil_append]

/-! ## What a template mentions -/

/-- The head of a loop, further behind. -/
def LoopHead.behind (n : Nat) (h : LoopHead) : LoopHead :=
  ⟨h.item, h.collection, n + h.start, n + h.stop⟩

/-- The head of a conditional, further behind. -/
def ConditionalHead.behind (n : Nat) (h : ConditionalHead) : ConditionalHead :=
  ⟨h.expression, n + h.start, n + h.stop⟩

theorem Token.loopHead?_behind (n : Nat) (t : Token) :
    (t.relocate (n + ·)).loopHead? = t.loopHead?.map (LoopHead.behind n) := by
  have hd : (t.relocate (n + ·)).directive? = t.directive? := rfl
  unfold loopHead?
  rw [hd]
  split
  · next item collection _ =>
    have hstop : (t.relocate (n + ·)).stop = n + t.stop := Nat.add_assoc _ _ _
    rw [hstop]
    rfl
  · rfl

theorem Token.conditionalHead?_behind (n : Nat) (t : Token) :
    (t.relocate (n + ·)).conditionalHead? = t.conditionalHead?.map (ConditionalHead.behind n) := by
  have hd : (t.relocate (n + ·)).directive? = t.directive? := rfl
  unfold conditionalHead?
  rw [hd]
  split
  · next expression _ =>
    have hstop : (t.relocate (n + ·)).stop = n + t.stop := Nat.add_assoc _ _ _
    rw [hstop]
    rfl
  · rfl

/-- What a template mentions behind a run of text: the same names, and the same heads of blocks
further behind. -/
theorem ofText_behind (a b : String) (ha : pieces a.toList = [.text .run a.toList])
    (hends : EndsApart a.toList) :
    (Outline.ofText (a ++ b)).names = (Outline.ofText b).names ∧
    (Outline.ofText (a ++ b)).loops = (Outline.ofText b).loops.map (LoopHead.behind a.length) ∧
    (Outline.ofText (a ++ b)).conditionals =
      (Outline.ofText b).conditionals.map (ConditionalHead.behind a.length) := by
  refine ⟨?_, ?_, ?_⟩
  · have h := filterMap_tokenize_behind a b ha hends Token.placeholderName? id
      (fun t ht => ?_) (fun t => rfl) (fun t => (Option.map_id_apply).symm)
    · rw [List.map_id] at h
      exact congrArg distinct h
    · unfold Token.placeholderName?
      cases hshape : t.shape with
      | placeholder => rw [hshape] at ht; cases ht
      | _ => rfl
  · refine filterMap_tokenize_behind a b ha hends Token.loopHead? _ (fun t ht => ?_)
      (fun t => rfl) (Token.loopHead?_behind a.length)
    rw [Token.loopHead?, t.directive?_of_isText ht]
  · refine filterMap_tokenize_behind a b ha hends Token.conditionalHead? _ (fun t ht => ?_)
      (fun t => rfl) (Token.conditionalHead?_behind a.length)
    rw [Token.conditionalHead?, t.directive?_of_isText ht]

/-! ## What a template with a scaffold gives -/

theorem pieces_lineFeeds : pieces "\n\n".toList = [.text .run "\n\n".toList] :=
  pieces_run '\n' ['\n'] (by decide) (by decide)

theorem tokens_lineFeeds : (tokenize "\n\n").tokens = [⟨⟨.run, "\n\n", "\n\n"⟩, .start⟩] := by
  rw [tokenize, pieces_lineFeeds]
  rfl

theorem selfContained_lineFeeds : SelfContained "\n\n" := by
  refine ⟨by simp [EndsApart], ?_, ?_⟩
  · rw [tokens_lineFeeds]
    decide
  · rw [tokens_lineFeeds]
    rfl

theorem outcomes_lineFeeds (scope : Scope) :
    outcomes scope (Tree.ofTokens (tokenize "\n\n").tokens).nodes = ⟨.ok "\n\n", []⟩ := by
  rw [tokens_lineFeeds]
  exact Rendered.append_empty ⟨.ok "\n\n", []⟩

/-- The defaults and the body of a template that got a scaffold. -/
theorem extract_scaffold (source : String)
    (hblock : Defaults.Block.find? source.toList = none)
    (hnames : (parse source).topLevelNames ≠ [])
    (hpaths : ∀ name ∈ (parse source).topLevelNames, ∀ c ∈ name.toList, IsPathCharacter c) :
    Defaults.extract (scaffold source) =
      ((parse source).topLevelNames.map fun name => (name, ""), "\n\n" ++ source) :=
  (extract_scaffold_iff source hblock hnames).2 fun name hname =>
    isWritable_of_isPathCharacter name (hpaths name hname)

/-- With a scaffold, the top-level names of a template have blank defaults; it has no other. -/
theorem padded_scaffold (source : String) (useDefaults : Bool) (data : Value)
    (hblock : Defaults.Block.find? source.toList = none)
    (hnames : (parse source).topLevelNames ≠ [])
    (hpaths : ∀ name ∈ (parse source).topLevelNames, ∀ c ∈ name.toList, IsPathCharacter c) :
    Scope.Padded (parse source).topLevelNames
      (.root data ((parse source).withDefaults useDefaults).defaults)
      (.root data ((parse (scaffold source)).withDefaults useDefaults).defaults) := by
  have hextract : Defaults.extract source = ([], source) := by
    rw [Defaults.extract, hblock]
  have hnone : ((parse source).withDefaults useDefaults).defaults = [] := by
    rw [parse_of_extract source source [] hextract]
    cases useDefaults <;> rfl
  rw [hnone, parse_of_extract _ _ _ (extract_scaffold source hblock hnames hpaths)]
  refine ⟨rfl, rfl, fun path => ?_⟩
  cases useDefaults with
  | false => exact .inl rfl
  | true =>
    show Entries.get? ((parse source).topLevelNames.map fun name => (name, "")) path = none ∨ _
    cases hget : Entries.get? ((parse source).topLevelNames.map fun name => (name, "")) path with
    | none => exact .inl rfl
    | some text =>
      obtain ⟨name, hname, heq⟩ := List.mem_map.1 (Entries.mem_of_get? _ path text hget)
      cases heq
      exact .inr ⟨hname, rfl, hget⟩

/-- A scaffold does not change what a template gives. Let a template have no complete defaults
block, but top-level names, each of them a dotted path that no condition of it reads. With a
scaffold it gives what it gives without one, behind two line feeds; it mentions the same names, its
loops and conditionals are two characters further behind, and it has as many problems. -/
theorem render_scaffold (source : String) (useDefaults : Bool) (data : Value)
    (hblock : Defaults.Block.find? source.toList = none)
    (hnames : (parse source).topLevelNames ≠ [])
    (hpaths : ∀ name ∈ (parse source).topLevelNames, ∀ c ∈ name.toList, IsPathCharacter c)
    (hconditions : ∀ path ∈ Node.conditionPaths (parse source).nodes,
      path ∉ (parse source).topLevelNames) :
    let t := parse source
    let scaffolded := parse (scaffold source)
    scaffolded.render useDefaults data =
        Rendered.append ⟨.ok "\n\n", []⟩ (t.render useDefaults data) ∧
      scaffolded.outline.names = t.outline.names ∧
      scaffolded.outline.loops = t.outline.loops.map (LoopHead.behind 2) ∧
      scaffolded.outline.conditionals = t.outline.conditionals.map (ConditionalHead.behind 2) ∧
      scaffolded.problems.length = t.problems.length := by
  intro t scaffolded
  have hextract : Defaults.extract source = ([], source) := by
    rw [Defaults.extract, hblock]
  have ht : t = _ := parse_of_extract source source [] hextract
  have hscaffolded : scaffolded = _ :=
    parse_of_extract _ _ _ (extract_scaffold source hblock hnames hpaths)
  have hfollows := follows_append "\n\n" source selfContained_lineFeeds
  obtain ⟨hmentioned, hloops, hconditionals⟩ :=
    ofText_behind "\n\n" source pieces_lineFeeds selfContained_lineFeeds.endsApart
  refine ⟨?_, ?_, ?_, ?_, ?_⟩
  · have hpadded := padded_scaffold source useDefaults data hblock hnames hpaths
    calc scaffolded.render useDefaults data
        = Rendered.append ⟨.ok "\n\n", []⟩
            (renderIn (.root data (scaffolded.withDefaults useDefaults).defaults) t.nodes) := by
          have hnodes : scaffolded.nodes =
              (Tree.ofTokens (tokenize ("\n\n" ++ source)).tokens).nodes := by
            rw [hscaffolded]
          rw [render, renderIn_eq_outcomes, renderIn_eq_outcomes, hnodes, hfollows.outcomes,
            outcomes_lineFeeds, ht]
      _ = Rendered.append ⟨.ok "\n\n", []⟩ (t.render useDefaults data) :=
          congrArg _ (renderIn_padded t.nodes hconditions _ _ hpadded)
  · rw [hscaffolded, ht]
    exact hmentioned
  · rw [hscaffolded, ht]
    exact hloops
  · rw [hscaffolded, ht]
    exact hconditionals
  · have hlength := congrArg List.length hfollows.problems
    rw [List.length_map, List.length_map] at hlength
    rw [hscaffolded, ht]
    exact hlength

/-- A template with the marks of a defaults block the wrong way round, a variable without a value,
and a condition on another one. -/
theorem render_scaffold_incomplete_block :
    let data : Value := .object []
    let source :=
      "\x7b% enddefaults %\x7d\x7b\x7ba\x7d\x7d\x7b%if b%\x7d;\x7b%endif%\x7d\x7b% defaults %\x7d"
    Defaults.Block.find? source.toList = none ∧ (parse source).topLevelNames = ["a"] ∧
      Node.conditionPaths (parse source).nodes = ["b"] ∧
      (parse (scaffold source)).render true data =
        Rendered.append ⟨.ok "\n\n", []⟩ ((parse source).render true data) := by
  intro data source
  have hblock : Defaults.Block.find? source.toList = none := by decide +kernel
  have hextract : Defaults.extract source = ([], source) := by
    rw [Defaults.extract, hblock]
  have htokens : (tokenize source).tokens = [
      ⟨⟨.directive, "enddefaults", "\x7b% enddefaults %\x7d"⟩, ⟨0, 1, 1⟩⟩,
      ⟨⟨.placeholder, "a", "\x7b\x7ba\x7d\x7d"⟩, ⟨17, 1, 18⟩⟩,
      ⟨⟨.directive, "if b", "\x7b%if b%\x7d"⟩, ⟨22, 1, 23⟩⟩,
      ⟨⟨.run, ";", ";"⟩, ⟨30, 1, 31⟩⟩,
      ⟨⟨.directive, "endif", "\x7b%endif%\x7d"⟩, ⟨31, 1, 32⟩⟩,
      ⟨⟨.directive, "defaults", "\x7b% defaults %\x7d"⟩, ⟨40, 1, 41⟩⟩] := by decide +kernel
  have hend : Directive.classify "enddefaults" = none := by decide
  have hstart : Directive.classify "defaults" = none := by decide
  have hif : Directive.classify "if b" = some (.opening (.conditional "b")) := by decide
  have hendif : Directive.classify "endif" = some (.closing .conditional) := by decide
  have hnodes : (parse source).nodes =
      [.text "\x7b% enddefaults %\x7d", .placeholder "a" 17, .conditional "b" 22 [.text ";"],
        .text "\x7b% defaults %\x7d"] := by
    rw [parse_of_extract source source [] hextract, htokens, Tree.ofTokens]
    simp only [List.foldl_cons, List.foldl_nil, Builder.read, hend, hstart, hif, hendif]
    rfl
  have hnames : (parse source).topLevelNames = ["a"] := by
    rw [parse_of_extract source source [] hextract, Outline.ofText, htokens]
    decide
  have hcondition : Condition.pathsOf "b" = ["b"] := by decide +kernel
  have hpaths : Node.conditionPaths (parse source).nodes = ["b"] := by
    rw [hnodes]
    simp [Node.conditionPaths, Node.walkAll, Node.walk, Waypoint.conditionPaths, hcondition]
  have h := render_scaffold source true data hblock (by rw [hnames]; decide)
    (by rw [hnames]; simp [IsPathCharacter, show isWord 'a' = true by decide])
    (by rw [hnames, hpaths]; decide)
  exact ⟨hblock, hnames, hpaths, h.1⟩

end Stencil.Template
