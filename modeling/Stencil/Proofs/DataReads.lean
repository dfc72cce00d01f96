import Stencil.Proofs.TreeReads

/-!
# What a rendering reads of the data

A template names what it reads. Every path that a rendering looks up stands in a placeholder, in
the head of a loop or in a condition, and it reads one field of the data at most, that of its first
segment. So data can be changed anywhere else without a difference in the text or in what is
reported, for any default values and whichever way the conditions go.

The two renderings are followed side by side: their scopes have the same bindings throughout and
data that agree on the named fields (`Scope.AgreeOn`), since what a loop binds is an element of a
value that both have read.

## Key results

- `paired_agreeOn`: scopes with data that agree on the named fields are a pair.
- `renderIn_eq_of_named_data`: data that agree on the named fields are rendered alike.
-/

namespace Stencil

namespace Scope

/-- The scopes differ in their data only, and there not in the fields of the given names. -/
structure AgreeOn (names : List String) (s s' : Scope) : Prop where
  defaults : s.defaults = s'.defaults
  bindings : s.bindings = s'.bindings
  data : ∀ name ∈ names, s.data.field? name = s'.data.field? name

theorem lookup_eq_of_agreeOn (names : List String) (s s' : Scope) (h : AgreeOn names s s')
    (path : String) (hpath : firstSegment path ∈ names) : s.lookup path = s'.lookup path := by
  have houtside := lookupOutside_congr s s' path h.defaults (h.data _ hpath)
  unfold lookup
  rw [h.bindings, houtside]

/-- Scopes with data that agree on the fields that paths begin with are a pair on those paths. -/
theorem paired_agreeOn (paths items : List String) :
    Paired (AgreeOn (paths.map firstSegment)) paths items where
  lookup s s' h path hpath := lookup_eq_of_agreeOn _ s s' h path (List.mem_map_of_mem hpath)
  bind _ _ h item _ element :=
    ⟨h.defaults, congrArg (Entries.put · item element) h.bindings, h.data⟩

end Scope

namespace Template

/-- A rendering reads only the data that the template names. Data that have the same fields, or
lack them both, for every first segment of a path in the block tree give the same text and the same
notes in the same order. -/
theorem renderIn_eq_of_named_data (source : String) (defaults : Entries String)
    (data data' : Entries Value)
    (h : ∀ path ∈ Node.readPaths (parse source).nodes,
      data.get? (firstSegment path) = data'.get? (firstSegment path)) :
    renderIn (.root (.object data) defaults) (parse source).nodes =
      renderIn (.root (.object data') defaults) (parse source).nodes := by
  refine Renderer.renderIn_congr _ _ (Scope.paired_agreeOn _ _) _ _ ⟨rfl, rfl, ?_⟩
  intro name hname
  obtain ⟨path, hpath, rfl⟩ := List.mem_map.1 hname
  exact h path hpath

/-- A loop around a condition that fails for one element and does not look at all its paths for the
other: fields that no path begins with may differ, and so may the order of the fields. -/
theorem renderIn_eq_of_named_data_loop :
    let source :=
      "\x7b%for x in xs%\x7d\x7b%if x.n<y||z%\x7d\x7b\x7bx.n\x7d\x7d\x7b%endif%\x7d\x7b%endfor%\x7d"
    let elements := Value.list [.object [("n", .int 1)], .object [("n", .null)]]
    let data : Entries Value := [("xs", elements), ("y", .int 2), ("n", .int 3)]
    let data' : Entries Value := [("other", .null), ("y", .int 2), ("xs", elements)]
    Node.readPaths (parse source).nodes = ["xs", "x.n", "y", "z", "x.n"] ∧
      renderIn (.root (.object data) []) (parse source).nodes =
        renderIn (.root (.object data') []) (parse source).nodes := by
  intro source elements data data'
  have hblock : Text.cut? Defaults.openingMarker source.toList = none := by decide +kernel
  have htokens : (tokenize source).tokens = [
      ⟨⟨.directive, "for x in xs", "\x7b%for x in xs%\x7d"⟩, ⟨0, 1, 1⟩⟩,
      ⟨⟨.directive, "if x.n<y||z", "\x7b%if x.n<y||z%\x7d"⟩, ⟨15, 1, 16⟩⟩,
      ⟨⟨.placeholder, "x.n", "\x7b\x7bx.n\x7d\x7d"⟩, ⟨30, 1, 31⟩⟩,
      ⟨⟨.directive, "endif", "\x7b%endif%\x7d"⟩, ⟨37, 1, 38⟩⟩,
      ⟨⟨.directive, "endfor", "\x7b%endfor%\x7d"⟩, ⟨46, 1, 47⟩⟩] := by decide +kernel
  have hfor : Directive.classify "for x in xs" = some (.opening (.loop "x" "xs")) := by decide
  have hif : Directive.classify "if x.n<y||z" =
      some (.opening (.conditional "x.n<y||z")) := by decide
  have hendif : Directive.classify "endif" = some (.closing .conditional) := by decide
  have hendfor : Directive.classify "endfor" = some (.closing .loop) := by decide
  have hnodes : (parse source).nodes =
      [.loop "x" "xs" 0 [.conditional "x.n<y||z" 15 [.placeholder "x.n" 30]]] := by
    rw [parse_of_cut?_eq_none source hblock, htokens, Tree.ofTokens]
    simp only [List.foldl_cons, List.foldl_nil, Builder.read, hfor, hif, hendif, hendfor]
    rfl
  have hcondition : Condition.pathsOf "x.n<y||z" = ["x.n", "y", "z"] := by decide +kernel
  have hpaths : Node.readPaths (parse source).nodes = ["xs", "x.n", "y", "z", "x.n"] := by
    rw [hnodes]
    simp [Node.readPaths, Node.walkAll, Node.walk, Waypoint.paths, hcondition]
  refine ⟨hpaths, renderIn_eq_of_named_data source [] data data' ?_⟩
  rw [hpaths]
  intro path hpath
  simp only [List.mem_cons, List.not_mem_nil, or_false] at hpath
  rcases hpath with rfl | rfl | rfl | rfl | rfl <;> rfl

end Template

end Stencil
