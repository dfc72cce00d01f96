import Stencil.Proofs.Concatenation
import Stencil.Proofs.DirectiveReading
import Stencil.Proofs.TreeReads

/-!
# Loops as overlays

A turn of a loop is the body of the loop, rendered with the element entered into the data under the
name of the item. So bindings are not needed to tell what a loop gives.

A binding and an entry of the data are not read the same way: a bound name never falls back to a
default, and a path that ends with a dot reads a bound element itself. So this holds where no
default begins with a name that is bound, and where the paths have no empty segment. The paths of
conditions and the collections of loops never have one.

In a nested loop the inner bindings are still bindings while the outer one is an entry. The
invariant is that of two scopes side by side (`Overlaid`): a name that the first scope binds is
bound alike in the second, or is an entry of its data.

## Key results

- `lookup_eq_of_overlaid`: such scopes read the same.
- `overlaid_bind`: they stay such when both bind an element.
- `isDotted_of_mem_readPaths`: the paths that a loop in a template reads have no empty segment if
  its placeholders have none.
- `renderIn_loop_eq_overlay`: what a loop gives, what follows it, and what its body reads.
-/

namespace Stencil

namespace Scope

/-! ## Overlaid scopes -/

/-- The second scope has in its data some of the elements that the first one binds. All names that
are bound are among the items, and no default begins with an item. -/
structure Overlaid (items : List String) (s s' : Scope) : Prop where
  defaults : s.defaults = s'.defaults
  apart : ∀ key ∈ s.defaults.keys, firstSegment key ∉ items
  bound : ∀ name element, s.bindings.get? name = some element → name ∈ items ∧
    (s'.bindings.get? name = some element ∨
      s'.bindings.get? name = none ∧ s'.data.field? name = some element)
  free : ∀ name, s.bindings.get? name = none →
    s'.bindings.get? name = none ∧ s'.data.field? name = s.data.field? name

/-- A path without a default reads an entry of the data as it reads a bound element. -/
theorem lookupOutside_of_field? (s : Scope) (path : String) (element : Value)
    (hfield : s.data.field? (firstSegment path) = some element) (hkey : path ∉ s.defaults.keys) :
    s.lookupOutside path = element.follow (laterSegments path) := by
  have hdefault : s.defaults.get? path = none := (Entries.get?_eq_none_iff s.defaults path).2 hkey
  rw [lookupOutside, Value.resolve_eq, hfield, hdefault]
  dsimp only
  split
  · next hundefined => exact hundefined.symm
  · rfl

/-- Overlaid scopes read the same along paths without an empty segment. -/
theorem lookup_eq_of_overlaid (items : List String) (s s' : Scope) (h : Overlaid items s s')
    (path : String) (hpath : IsDotted path) : s.lookup path = s'.lookup path := by
  cases hget : s.bindings.get? (firstSegment path) with
  | none =>
    obtain ⟨hfree, hfield⟩ := h.free _ hget
    rw [lookup_of_free s path hget, lookup_of_free s' path hfree]
    exact lookupOutside_congr s s' path h.defaults hfield.symm
  | some element =>
    rw [lookup_of_bound s path element hget hpath]
    obtain ⟨hitem, hbound | ⟨hfree, hfield⟩⟩ := h.bound _ element hget
    · rw [lookup_of_bound s' path element hbound hpath]
    · -- an item is not what a default begins with, so the path has none
      have hkey : path ∉ s'.defaults.keys := by
        intro hkey
        rw [← h.defaults] at hkey
        exact h.apart path hkey hitem
      rw [lookup_of_free s' path hfree, lookupOutside_of_field? s' path element hfield hkey]

/-- Overlaid scopes that bind an element to the same item are overlaid. -/
theorem overlaid_bind (items : List String) (s s' : Scope) (h : Overlaid items s s')
    (item : String) (hitem : item ∈ items) (element : Value) :
    Overlaid items (s.bind item element) (s'.bind item element) where
  defaults := h.defaults
  apart := h.apart
  bound name inner hget := by
    unfold bind at hget ⊢
    by_cases hname : name = item
    · rw [hname, Entries.get?_put_self] at hget ⊢
      exact ⟨hitem, .inl hget⟩
    · rw [Entries.get?_put_of_ne _ _ hname] at hget ⊢
      exact h.bound name inner hget
  free name hget := by
    unfold bind at hget ⊢
    by_cases hname : name = item
    · rw [hname, Entries.get?_put_self] at hget
      cases hget
    · rw [Entries.get?_put_of_ne _ _ hname] at hget ⊢
      exact h.free name hget

/-- The scope of one turn of a loop outside all others, and the data with the element entered. -/
theorem overlaid_root (items : List String) (data : Entries Value) (defaults : Entries String)
    (item : String) (element : Value) (hitem : item ∈ items)
    (hapart : ∀ key ∈ defaults.keys, firstSegment key ∉ items) :
    Overlaid items ((root (.object data) defaults).bind item element)
      (root (.object (data.put item element)) defaults) where
  defaults := rfl
  apart := hapart
  bound name inner hget := by
    have hget : Entries.get? (Entries.put [] item element) name = some inner := hget
    by_cases hname : name = item
    · rw [hname, Entries.get?_put_self] at hget
      rw [hname, ← hget]
      exact ⟨hitem, .inr ⟨rfl, Entries.get?_put_self data item element⟩⟩
    · rw [Entries.get?_put_of_ne _ _ hname] at hget
      cases hget
  free name hget := by
    have hget : Entries.get? (Entries.put [] item element) name = none := hget
    refine ⟨rfl, Entries.get?_put_of_ne data element ?_⟩
    rintro rfl
    rw [Entries.get?_put_self] at hget
    cases hget

/-- Overlaid scopes are a pair on paths without an empty segment. -/
theorem paired_overlaid (items paths inner : List String) (hinner : inner ⊆ items)
    (hpaths : ∀ path ∈ paths, IsDotted path) : Paired (Overlaid items) paths inner where
  lookup s s' h path hpath := lookup_eq_of_overlaid items s s' h path (hpaths path hpath)
  bind s s' h item hitem element := overlaid_bind items s s' h item (hinner hitem) element

end Scope

namespace Template

/-! ## The paths of a loop -/

/-- A name is a path of one segment. -/
theorem isDotted_of_isName (name : String) (h : Directive.IsName name.toList) :
    IsDotted name := by
  unfold IsDotted segments
  rw [Text.splitOn_of_not_mem '.' name.toList h.not_mem_dot, List.map_singleton,
    List.mem_singleton]
  intro hempty
  exact h.ne_nil (String.ofList_eq_empty_iff.1 hempty.symm)

/-- The paths that are read in the tree of a template have no empty segment, but for those of
placeholders. -/
theorem isDotted_of_mem_readPaths (source : String) (nodes : List Node)
    (hnodes : Node.walkAll nodes ⊆ Node.walkAll (parse source).nodes)
    (hnames : ∀ name offset, .placeholder name offset ∈ Node.walkAll nodes → IsDotted name)
    (path : String) (hpath : path ∈ Node.readPaths nodes) : IsDotted path := by
  obtain ⟨w, hw, hpath⟩ := List.mem_flatMap.1 hpath
  cases w with
  | text content => cases hpath
  | closing kind => cases hpath
  | placeholder name offset =>
    rw [List.mem_singleton.1 hpath]
    exact hnames name offset hw
  | opening head offset =>
    cases head with
    | conditional expression => exact Condition.isDotted_of_mem_pathsOf expression path hpath
    | loop item collection =>
      -- the head of a loop was read from a directive, with a name for its collection
      rw [List.mem_singleton.1 hpath]
      obtain ⟨t, -, ht⟩ := exists_token_of_opening source _ offset (hnodes hw)
      exact isDotted_of_isName collection (Token.isName_of_directive? t item collection ht).2

/-! ## Loops -/

/-- A loop is an overlay of the data. Rendered outside all others, a loop of a template gives its
body once for each element of its list, each time with the element in the data under the name of
its item. This takes placeholders in the body that have no empty segment, and defaults that begin
with none of the items bound there. In any scope, what stands after the loop is rendered as without
it, and in the body the item stands for the element, whatever else has the name. -/
theorem renderIn_loop_eq_overlay (source : String) (data : Entries Value)
    (defaults : Entries String) (item collection : String) (offset : Nat) (body : List Node)
    (hloop : Node.Occurs (.loop item collection offset body) (parse source).nodes)
    (hnames : ∀ name offset, .placeholder name offset ∈ Node.walkAll body → IsDotted name)
    (hapart : ∀ key ∈ defaults.keys, firstSegment key ∉ item :: Node.boundItems body) :
    renderIn (.root (.object data) defaults) [.loop item collection offset body] =
        (match (Scope.root (.object data) defaults).lookup collection with
        | .list elements => Rendered.join (elements.map fun element =>
            renderIn (.root (.object (data.put item element)) defaults) body)
        | _ => ⟨.ok "", [Renderer.notAList collection]⟩) ∧
      (∀ scope before after,
        renderIn scope (before ++ .loop item collection offset body :: after) =
          (renderIn scope before).append
            ((renderIn scope [.loop item collection offset body]).append (renderIn scope after))) ∧
      ∀ (scope : Scope) element path, IsDotted path → firstSegment path = item →
        (scope.bind item element).lookup path = element.follow (laterSegments path) := by
  refine ⟨?_, ?_, fun scope element path => scope.lookup_bind item element path⟩
  · have hwalk : Node.walkAll body ⊆ Node.walkAll (parse source).nodes := by
      intro w hw
      refine hloop.walk_subset ?_
      rw [Node.walk]
      exact List.mem_cons_of_mem _ (List.mem_append_left _ hw)
    -- each turn of the loop, by the two scopes
    have hturn : ∀ element,
        Renderer.outcomes ((Scope.root (.object data) defaults).bind item element) body =
          renderIn (.root (.object (data.put item element)) defaults) body := by
      intro element
      rw [← renderIn_eq_outcomes]
      refine Renderer.renderIn_congr (Scope.Overlaid (item :: Node.boundItems body)) body ?_ _ _ ?_
      · exact Scope.paired_overlaid _ _ _ (List.subset_cons_self _ _)
          (isDotted_of_mem_readPaths source body hwalk hnames)
      · exact Scope.overlaid_root _ data defaults item element List.mem_cons_self hapart
    rw [renderIn_eq_outcomes, Renderer.outcomes, Renderer.outcomes, Rendered.append_empty,
      Renderer.outcome]
    cases (Scope.root (.object data) defaults).lookup collection with
    | list elements =>
      exact congrArg (fun turn => Rendered.join (elements.map turn)) (funext hturn)
    | _ => rfl
  · intro scope before after
    simp only [renderIn_eq_outcomes, outcomes_append, Renderer.outcomes,
      Rendered.append_empty]

/-- Two loops with the same item, one in the other: the inner element hides the outer one, which is
there again behind the inner loop, whatever the data have under that name. -/
theorem renderIn_loop_eq_overlay_shadowed :
    let source := "\x7b%for x in a%\x7d\x7b%for x in b%\x7d\x7b\x7bx\x7d\x7d\x7b%endfor%\x7d" ++
      "\x7b\x7bx.n\x7d\x7d\x7b%endfor%\x7d"
    let body : List Node := [.loop "x" "b" 14 [.placeholder "x" 28], .placeholder "x.n" 43]
    let first := Value.object [("n", .int 1)]
    let second := Value.text "n"
    let data : Entries Value :=
      [("x", .int 0), ("a", .list [first, second]), ("b", .list [.text "c", .null])]
    let defaults : Entries String := [("b", "d"), ("a.x", "e")]
    (parse source).nodes = [.loop "x" "a" 0 body] ∧
      (∀ name offset, .placeholder name offset ∈ Node.walkAll body → IsDotted name) ∧
      (∀ key ∈ defaults.keys, firstSegment key ∉ "x" :: Node.boundItems body) ∧
      renderIn (.root (.object data) defaults) (parse source).nodes =
        Rendered.join [renderIn (.root (.object (data.put "x" first)) defaults) body,
          renderIn (.root (.object (data.put "x" second)) defaults) body] := by
  intro source body first second data defaults
  have hblock : Text.cut? Defaults.openingMarker source.toList = none := by
    rw [String.toList_append]
    decide +kernel
  have htokens : (tokenize source).tokens = [
      ⟨⟨.directive, "for x in a", "\x7b%for x in a%\x7d"⟩, ⟨0, 1, 1⟩⟩,
      ⟨⟨.directive, "for x in b", "\x7b%for x in b%\x7d"⟩, ⟨14, 1, 15⟩⟩,
      ⟨⟨.placeholder, "x", "\x7b\x7bx\x7d\x7d"⟩, ⟨28, 1, 29⟩⟩,
      ⟨⟨.directive, "endfor", "\x7b%endfor%\x7d"⟩, ⟨33, 1, 34⟩⟩,
      ⟨⟨.placeholder, "x.n", "\x7b\x7bx.n\x7d\x7d"⟩, ⟨43, 1, 44⟩⟩,
      ⟨⟨.directive, "endfor", "\x7b%endfor%\x7d"⟩, ⟨50, 1, 51⟩⟩] := by
    rw [tokenize, String.toList_append]
    decide +kernel
  have hfor : Directive.classify "for x in a" = some (.opening (.loop "x" "a")) := by decide
  have hinner : Directive.classify "for x in b" = some (.opening (.loop "x" "b")) := by decide
  have hendfor : Directive.classify "endfor" = some (.closing .loop) := by decide
  have hnodes : (parse source).nodes = [.loop "x" "a" 0 body] := by
    rw [parse_of_cut?_eq_none source hblock, htokens, Tree.ofTokens]
    simp only [List.foldl_cons, List.foldl_nil, Builder.read, hfor, hinner, hendfor]
    rfl
  have hnames : ∀ name offset, .placeholder name offset ∈ Node.walkAll body → IsDotted name := by
    intro name offset hw
    simp only [body, Node.walkAll, Node.walk, List.mem_append, List.mem_cons, List.not_mem_nil,
      reduceCtorEq, Waypoint.placeholder.injEq, false_or, or_false] at hw
    rcases hw with ⟨rfl, -⟩ | ⟨rfl, -⟩ <;> decide
  have hapart : ∀ key ∈ defaults.keys, firstSegment key ∉ "x" :: Node.boundItems body := by
    decide
  have hloop : Node.Occurs (.loop "x" "a" 0 body) (parse source).nodes := by
    rw [hnodes]
    exact .here []
  obtain ⟨hrender, -, -⟩ :=
    renderIn_loop_eq_overlay source data defaults "x" "a" 0 body hloop hnames hapart
  refine ⟨hnodes, hnames, hapart, ?_⟩
  rw [hnodes, hrender]
  rfl

end Template

end Stencil
