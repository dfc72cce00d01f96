import Mathlib.Data.List.Infix
import Stencil.Proofs.Concatenation
import Stencil.Proofs.RenderedTexts
import Stencil.Proofs.TreeReads
import Stencil.Proofs.ValueTexts

/-!
# Rendered text is inert

What a rendering gives mentions nothing any more: read as a template, it has no placeholders, no
loops and no conditionals. The template has to be sound, with no nesting problem and no marker that
is not closed, and the texts of the data and of the defaults may not have opening braces.

All pieces of such a text are literal: runs, blank placeholders, and directives that are none. Texts
with literal pieces only are put together from such texts again, as long as none but the last one
ends with a brace (`isLiteral_append`), which could be the half of a marker. The text of a value has
no brace at all. The texts of a template are source texts of its pieces, and of those only the last
one can end with a brace: anywhere else, a marker would follow it, and the two together would have
been read as a marker that begins one character before (`endsApart_of_readPiece?`).

## Key results

- `isLiteral_append`: literal texts one after another.
- `isLiteral_of_not_mem`: a text without a brace.
- `endsApart_of_mem_dropLast`: no piece but the last one ends with a brace.
- `rendered_inert`: what a rendering gives has an empty outline.
-/

namespace Stencil.Template

open Stencil.Text Stencil.Renderer

/-! ## Literal pieces -/

/-- The piece stands for itself, whatever is around it: it is a run, a blank placeholder, or a
directive that is none. -/
def Piece.IsLiteral (p : Piece) : Prop :=
  p.shape = .run ∨ p.shape = .blankPlaceholder ∨
    p.shape = .directive ∧ Directive.classify p.value = none

/-- All pieces of the text stand for themselves. -/
def IsLiteral (s : List Char) : Prop := ∀ p ∈ pieces s, p.IsLiteral

theorem allClosed_of_isLiteral (s : List Char) (h : IsLiteral s) : AllClosed (pieces s) := by
  intro p hp
  rcases h p hp with hshape | hshape | ⟨hshape, -⟩ <;> simp [hshape]

theorem isLiteral_nil : IsLiteral [] := by
  intro p hp
  rw [pieces_nil] at hp
  cases hp

/-- Literal texts one after another are literal if no marker can come into being between them. -/
theorem isLiteral_append (s u : List Char) (hs : IsLiteral s) (hapart : EndsApart s)
    (hu : IsLiteral u) : IsLiteral (s ++ u) := by
  intro p hp
  rcases pieces_seam s u (allClosed_of_isLiteral s hs) hapart with
    hpieces | ⟨ps, x, y, qs, hps, hqs, hpieces⟩
  · rw [hpieces, List.mem_append] at hp
    exact hp.elim (hs p) (hu p)
  · -- two runs have become one run
    rw [hpieces, List.mem_append, List.mem_cons] at hp
    rcases hp with hp | rfl | hp
    · exact hs p (by rw [hps]; exact List.mem_append_left _ hp)
    · exact .inl rfl
    · exact hu p (by rw [hqs]; exact List.mem_cons_of_mem _ hp)

/-- A text without a brace is literal. -/
theorem isLiteral_of_not_mem (s : List Char) (h : '{' ∉ s) : IsLiteral s := by
  unfold IsLiteral
  fun_induction pieces s with
  | case1 s hs => simp
  | case2 s p rest hs _ ih =>
    have hrest : '{' ∉ rest := by
      rw [eq_append_of_readPiece? s rest p hs, List.mem_append, not_or] at h
      exact h.2
    intro q hq
    rcases List.mem_cons.1 hq with rfl | hq
    · -- a piece that is no run begins with a brace
      cases readsPiece_of_readPiece? s rest q hs with
      | run => exact .inl rfl
      | braced | openEnd | directive | loneOpening => exact absurd List.mem_cons_self h
    · exact ih hrest q hq

/-! ## Ends of pieces -/

theorem endsApart_of_not_mem (s : List Char) (h : '{' ∉ s) : EndsApart s :=
  fun hlast => h (List.mem_of_getLast? hlast)

theorem endsApart_append (s u : List Char) (hs : EndsApart s) (hu : EndsApart u) :
    EndsApart (s ++ u) := by
  unfold EndsApart at *
  rw [List.getLast?_append]
  cases hlast : u.getLast? with
  | none => exact hs
  | some c =>
    rw [hlast] at hu
    exact hu

/-- A text ends as its end does. -/
theorem endsApart_of_suffix (s u : List Char) (hu : EndsApart u) (hne : u ≠ []) (h : u <:+ s) :
    EndsApart s := by
  obtain ⟨r, rfl⟩ := h
  unfold EndsApart at *
  rwa [List.getLast?_append_of_ne_nil r hne]

/-- A run before a marker does not end with a brace. -/
theorem endsApart_run (c : Char) (s : List Char) (ho : ¬ opens (c :: s) = true)
    (h : (splitOpening s).2 ≠ []) : EndsApart (c :: (splitOpening s).1) := by
  induction s generalizing c with
  | nil => exact absurd rfl h
  | cons d s ih =>
    unfold splitOpening at h ⊢
    split
    · next hd =>
      -- the marker begins with a brace, and with another one before it would begin there
      rintro hlast
      obtain rfl : c = '{' := Option.some.inj hlast
      refine ho ?_
      rcases (opens_iff _).1 hd with ⟨r, hr⟩ | ⟨r, hr⟩ <;> cases hr <;> rfl
    · next hd =>
      rw [if_neg hd] at h
      have hrun := ih d hd h
      unfold EndsApart at hrun ⊢
      rwa [List.getLast?_cons_cons]

/-- A piece before others does not end with a brace. -/
theorem endsApart_of_readPiece? (s rest : List Char) (p : Piece)
    (h : readPiece? s = some (p, rest)) (hrest : rest ≠ []) : EndsApart p.raw.toList := by
  cases readsPiece_of_readPiece? s rest p h with
  | braced r inner rest hc =>
    rw [Piece.raw_braced, String.toList_ofList]
    exact endsApart_of_suffix _ ['}', '}'] (by simp [EndsApart]) (by simp)
      ⟨'{' :: '{' :: inner, rfl⟩
  | openEnd => exact absurd rfl hrest
  | directive r inner rest hc =>
    rw [Piece.directive, String.toList_ofList]
    exact endsApart_of_suffix _ ['%', '}'] (by simp [EndsApart]) (by simp)
      ⟨'{' :: '%' :: inner, rfl⟩
  | loneOpening => simp [Piece.text, EndsApart]
  | run c s ho =>
    rw [Piece.raw_text, String.toList_ofList]
    exact endsApart_run c s ho hrest

/-- No piece of a text but the last one ends with a brace. -/
theorem endsApart_of_mem_dropLast (s : List Char) (p : Piece) (hp : p ∈ (pieces s).dropLast) :
    EndsApart p.raw.toList := by
  fun_induction pieces s with
  | case1 s hs => cases hp
  | case2 s q rest hs _ ih =>
    by_cases hnil : pieces rest = []
    · rw [hnil] at hp
      cases hp
    · rw [List.dropLast_cons_of_ne_nil hnil] at hp
      rcases List.mem_cons.1 hp with rfl | hp
      · refine endsApart_of_readPiece? s rest p hs ?_
        rintro rfl
        exact hnil pieces_nil
      · exact ih hp

/-! ## Tokens -/

theorem toPiece_mem_pieces (body : String) (t : Token) (ht : t ∈ (tokenize body).tokens) :
    t.toPiece ∈ pieces body.toList := by
  rw [← map_toPiece_tokenize]
  exact List.mem_map_of_mem ht

/-- What is text on a walk is neither a directive nor a placeholder. -/
theorem directive?_of_waypoint (t : Token) (content : String) (h : t.waypoint = .text content) :
    t.directive? = none ∧ t.shape ≠ .placeholder := by
  unfold Token.waypoint at h
  cases hd : t.directive? with
  | some d =>
    rw [hd] at h
    cases d <;> cases h
  | none =>
    refine ⟨rfl, fun hshape => ?_⟩
    rw [hd, hshape] at h
    cases h

/-- What is text on a walk is the source text of its token. -/
theorem raw_of_waypoint (body : String) (t : Token) (ht : t ∈ (tokenize body).tokens)
    (content : String) (h : t.waypoint = .text content) : t.raw = content := by
  obtain ⟨hd, hne⟩ := directive?_of_waypoint t content h
  have hread := readPiece?_of_mem_pieces _ _ (toPiece_mem_pieces body t ht)
  have hvalue := value_eq_raw _ _ _ hread
  unfold Token.waypoint at h
  rw [hd] at h
  cases hshape : t.shape with
  | placeholder => exact absurd hshape hne
  | directive =>
    rw [hshape] at h
    exact Waypoint.text.inj h
  | run | loneOpening | openEnd | blankPlaceholder =>
    rw [hshape] at h hvalue
    exact (hvalue rfl).symm.trans (Waypoint.text.inj h)

/-- A closed token that is text on a walk is literal. -/
theorem isLiteral_of_waypoint (body : String) (t : Token) (ht : t ∈ (tokenize body).tokens)
    (hclosed : t.shape ≠ .loneOpening ∧ t.shape ≠ .openEnd) (content : String)
    (h : t.waypoint = .text content) : IsLiteral content.toList := by
  obtain ⟨hd, hne⟩ := directive?_of_waypoint t content h
  rw [← raw_of_waypoint body t ht content h]
  unfold IsLiteral
  rw [pieces_raw _ _ (toPiece_mem_pieces body t ht)]
  intro p hp
  rw [List.mem_singleton.1 hp, Piece.IsLiteral]
  unfold Token.directive? at hd
  cases hshape : t.shape with
  | run => exact .inl rfl
  | blankPlaceholder => exact .inr (.inl rfl)
  | loneOpening => exact absurd hshape hclosed.1
  | openEnd => exact absurd hshape hclosed.2
  | placeholder => exact absurd hshape hne
  | directive =>
    rw [hshape] at hd
    exact .inr (.inr ⟨rfl, hd⟩)

/-- A literal text mentions nothing. -/
theorem outline_of_isLiteral (text : String) (h : IsLiteral text.toList) :
    (Outline.ofText text).names = [] ∧ (Outline.ofText text).loops = [] ∧
      (Outline.ofText text).conditionals = [] := by
  have hnone : ∀ t ∈ (tokenize text).tokens, t.placeholderName? = none ∧ t.directive? = none := by
    intro t ht
    unfold Token.placeholderName? Token.directive?
    rcases h _ (toPiece_mem_pieces text t ht) with hshape | hshape | ⟨hshape, hvalue⟩
    · simp [hshape]
    · simp [hshape]
    · simp [hshape, hvalue]
  have hnames : (tokenize text).tokens.filterMap Token.placeholderName? = [] :=
    List.filterMap_eq_nil_iff.2 fun t ht => (hnone t ht).1
  have hloops : (tokenize text).tokens.filterMap Token.loopHead? = [] :=
    List.filterMap_eq_nil_iff.2 fun t ht => by rw [Token.loopHead?, (hnone t ht).2]
  have hconditionals : (tokenize text).tokens.filterMap Token.conditionalHead? = [] :=
    List.filterMap_eq_nil_iff.2 fun t ht => by rw [Token.conditionalHead?, (hnone t ht).2]
  exact ⟨congrArg distinct hnames, hloops, hconditionals⟩

/-! ## Renderings -/

/-- Literal texts that do not end with a brace can be put together in any number. -/
theorem joins_literal : Joins fun s => IsLiteral s.toList ∧ EndsApart s.toList where
  empty := ⟨isLiteral_nil, endsApart_of_not_mem [] List.not_mem_nil⟩
  append s t hs ht := by
    rw [String.toList_append]
    exact ⟨isLiteral_append _ _ hs.1 hs.2 ht.1, endsApart_append _ _ hs.2 ht.2⟩

/-- The text of a value without a brace is literal and does not end with one. -/
theorem literal_text? (value : Value) (h : value.LacksBrace) (s : String)
    (hs : value.text? = .ok s) : IsLiteral s.toList ∧ EndsApart s.toList := by
  have hbrace := value.brace_not_mem_text? h s hs
  exact ⟨isLiteral_of_not_mem _ hbrace, endsApart_of_not_mem _ hbrace⟩

section

variable (body : String) (scope : Scope) (hscope : scope.All Value.LacksBrace)
  (hclosed : ∀ t ∈ (tokenize body).tokens, t.shape ≠ .loneOpening ∧ t.shape ≠ .openEnd)

include hscope hclosed

/-- Well nested tokens of which none ends with a brace give a literal text. -/
theorem literal_outcomes (ts : List Token) (hts : ts ⊆ (tokenize body).tokens)
    (hproblems : (Tree.ofTokens ts).problems = [])
    (hapart : ∀ t ∈ ts, ∀ content, t.waypoint = .text content → EndsApart content.toList)
    (s : String) (h : (outcomes scope (Tree.ofTokens ts).nodes).text = .ok s) :
    IsLiteral s.toList ∧ EndsApart s.toList := by
  refine text_outcomes_of joins_literal Value.hereditary_lacksBrace literal_text? _ ?_ scope hscope
    s h
  intro content hcontent
  rw [walkAll_ofTokens ts hproblems] at hcontent
  obtain ⟨t, ht, hwaypoint⟩ := List.mem_map.1 hcontent
  exact ⟨isLiteral_of_waypoint body t (hts ht) (hclosed t (hts ht)) content hwaypoint,
    hapart t ht content hwaypoint⟩

/-- A token that is no directive gives a literal text. -/
theorem isLiteral_outcome_leaf (t : Token) (ht : t ∈ (tokenize body).tokens)
    (hd : t.directive? = none) (s : String) (h : (outcome scope t.leaf).text = .ok s) :
    IsLiteral s.toList := by
  have hwalk := t.walk_leaf hd
  unfold Token.leaf at h hwalk
  cases hshape : t.shape with
  | placeholder =>
    rw [hshape] at h
    exact (literal_text? _ (Scope.lookup_of_all Value.hereditary_lacksBrace scope hscope t.value) s
      h).1
  | directive | run | loneOpening | openEnd | blankPlaceholder =>
    rw [hshape] at h hwalk
    cases h
    refine isLiteral_of_waypoint body t ht (hclosed t ht) _ ?_
    rw [Node.walk] at hwalk
    exact (List.singleton_inj.1 hwalk).symm

/-- A well nested template with closed markers gives a literal text. -/
theorem isLiteral_outcomes (hproblems : (Tree.ofTokens (tokenize body).tokens).problems = [])
    (s : String) (h : (outcomes scope (Tree.ofTokens (tokenize body).tokens).nodes).text = .ok s) :
    IsLiteral s.toList := by
  -- before the last token nothing ends with a brace
  have hinit : ∀ t ∈ (tokenize body).tokens.dropLast, ∀ content,
      t.waypoint = .text content → EndsApart content.toList := by
    intro t ht content hwaypoint
    rw [← raw_of_waypoint body t (List.mem_of_mem_dropLast ht) content hwaypoint]
    refine endsApart_of_mem_dropLast body.toList t.toPiece ?_
    rw [← map_toPiece_tokenize, ← List.map_dropLast]
    exact List.mem_map_of_mem ht
  rcases List.eq_nil_or_concat' (tokenize body).tokens with hnil | ⟨init, last, htokens⟩
  · rw [hnil] at h
    cases h
    exact isLiteral_nil
  · rw [htokens, List.dropLast_concat] at hinit
    have hsubset : init ⊆ (tokenize body).tokens := by
      rw [htokens]
      exact List.subset_append_left _ _
    have hlast : last ∈ (tokenize body).tokens := by
      rw [htokens]
      exact List.mem_append_right _ (List.mem_singleton_self last)
    cases hd : last.directive? with
    | some d =>
      -- a block ends the template
      refine (literal_outcomes body scope hscope hclosed _ (List.Subset.refl _) hproblems ?_ s h).1
      intro t ht content hwaypoint
      rw [htokens, List.mem_append, List.mem_singleton] at ht
      rcases ht with ht | rfl
      · exact hinit t ht content hwaypoint
      · have hnone := (directive?_of_waypoint t content hwaypoint).1
        rw [hd] at hnone
        cases hnone
    | none =>
      -- the last token follows a text that does not end with a brace
      rw [htokens, problems_ofTokens_concat init last hd] at hproblems
      rw [htokens, ofTokens_append init [last] hproblems, ofTokens_leaf_cons last [] hd,
        outcomes_append] at h
      obtain ⟨first, second, hfirst, hsecond, rfl⟩ := Rendered.exists_of_text_append _ _ s h
      obtain ⟨hliteral, hapart⟩ := literal_outcomes body scope hscope hclosed init hsubset hproblems
        hinit first hfirst
      have hleaf : (outcomes scope [last.leaf]).text = .ok second := hsecond
      rw [outcomes, outcomes, Rendered.append_empty] at hleaf
      rw [String.toList_append]
      exact isLiteral_append _ _ hliteral hapart
        (isLiteral_outcome_leaf body scope hscope hclosed last hlast hd second hleaf)

end

/-- Rendered text is inert. What a template without a nesting problem and without a marker that is
not closed gives, with data and defaults whose texts have no opening brace, is a text in which no
variable, no loop and no conditional is found, even if it is read as a template itself. -/
theorem rendered_inert (source : String) (data : Entries Value) (defaults : Entries String)
    (hproblems : (parse source).problems = [])
    (hclosed : ∀ t ∈ (tokenize (parse source).body).tokens,
      t.shape ≠ .loneOpening ∧ t.shape ≠ .openEnd)
    (hdata : ∀ s, Value.HasText s (.object data) → '{' ∉ s.toList)
    (hdefaults : ∀ name s, defaults.get? name = some s → '{' ∉ s.toList) (text : String)
    (h : (renderIn (.root (.object data) defaults) (parse source).nodes).text = .ok text) :
    (Outline.ofText text).names = [] ∧ (Outline.ofText text).loops = [] ∧
      (Outline.ofText text).conditionals = [] := by
  have hscope : (Scope.root (.object data) defaults).All Value.LacksBrace := by
    refine ⟨hdata, fun name s hget t ht => ?_, fun name element hget => ?_⟩
    · cases ht
      exact hdefaults name s hget
    · cases hget
  rw [renderIn_eq_outcomes] at h
  exact outline_of_isLiteral text
    (isLiteral_outcomes (parse source).body _ hscope hclosed hproblems text h)

/-- A loop around a directive that is none, a blank placeholder and half of a closing marker, and
behind it half of an opening marker: both elements begin with what could close a marker. -/
theorem rendered_inert_kept :
    let source := "\x7b%for x in a%\x7d\x7b%x%\x7d\x7b\x7b\x7d\x7d\x7b\x7bx\x7d\x7d%" ++
      "\x7b%endfor%\x7d\x7b"
    let data : Entries Value := [("a", .list [.text "\x7d\x7d", .text "%\x7d"])]
    let text := "\x7b%x%\x7d\x7b\x7b\x7d\x7d\x7d\x7d%\x7b%x%\x7d\x7b\x7b\x7d\x7d%\x7d%\x7b"
    (parse source).problems = [] ∧
      (∀ t ∈ (tokenize (parse source).body).tokens,
        t.shape ≠ .loneOpening ∧ t.shape ≠ .openEnd) ∧
      (∀ s, Value.HasText s (.object data) → '{' ∉ s.toList) ∧
      (renderIn (.root (.object data) []) (parse source).nodes).text = .ok text ∧
      (Outline.ofText text).names = [] ∧ (Outline.ofText text).loops = [] ∧
        (Outline.ofText text).conditionals = [] := by
  intro source data text
  have hblock : Text.cut? Defaults.openingMarker source.toList = none := by
    rw [String.toList_append]
    decide +kernel
  have htokens : (tokenize source).tokens = [
      ⟨⟨.directive, "for x in a", "\x7b%for x in a%\x7d"⟩, ⟨0, 1, 1⟩⟩,
      ⟨⟨.directive, "x", "\x7b%x%\x7d"⟩, ⟨14, 1, 15⟩⟩,
      ⟨⟨.blankPlaceholder, "\x7b\x7b\x7d\x7d", "\x7b\x7b\x7d\x7d"⟩, ⟨19, 1, 20⟩⟩,
      ⟨⟨.placeholder, "x", "\x7b\x7bx\x7d\x7d"⟩, ⟨23, 1, 24⟩⟩,
      ⟨⟨.run, "%", "%"⟩, ⟨28, 1, 29⟩⟩,
      ⟨⟨.directive, "endfor", "\x7b%endfor%\x7d"⟩, ⟨29, 1, 30⟩⟩,
      ⟨⟨.run, "\x7b", "\x7b"⟩, ⟨39, 1, 40⟩⟩] := by
    rw [tokenize, String.toList_append]
    decide +kernel
  have hfor : Directive.classify "for x in a" = some (.opening (.loop "x" "a")) := by decide
  have hnone : Directive.classify "x" = none := by decide
  have hendfor : Directive.classify "endfor" = some (.closing .loop) := by decide
  have hparse := parse_of_cut?_eq_none source hblock
  have htree : Tree.ofTokens (tokenize source).tokens = ⟨[.loop "x" "a" 0 [.text "\x7b%x%\x7d",
      .text "\x7b\x7b\x7d\x7d", .placeholder "x" 23, .text "%"], .text "\x7b"], []⟩ := by
    rw [htokens, Tree.ofTokens]
    simp only [List.foldl_cons, List.foldl_nil, Builder.read, hfor, hnone, hendfor]
    rfl
  have hproblems : (parse source).problems = [] := by rw [hparse, htree]
  have hclosed : ∀ t ∈ (tokenize (parse source).body).tokens,
      t.shape ≠ .loneOpening ∧ t.shape ≠ .openEnd := by
    rw [hparse, htokens]
    decide
  have hdata : ∀ s, Value.HasText s (.object data) → '{' ∉ s.toList := by
    intro s hs
    cases hs with
    | field _ name v hv hs =>
      obtain ⟨rfl, rfl⟩ := Prod.mk.inj (List.mem_singleton.1 hv)
      cases hs with
      | item _ v hv hs =>
        simp only [List.mem_cons, List.not_mem_nil, or_false] at hv
        rcases hv with rfl | rfl <;> cases hs <;> decide
  have hrender : (renderIn (.root (.object data) []) (parse source).nodes).text = .ok text := by
    rw [hparse, htree]
    decide +kernel
  exact ⟨hproblems, hclosed, hdata, hrender,
    rendered_inert source data [] hproblems hclosed hdata (fun _ _ h => by cases h) text hrender⟩

end Stencil.Template
