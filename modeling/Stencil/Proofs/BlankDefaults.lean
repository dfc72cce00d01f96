import Stencil.Proofs.TreeReads

/-!
# Blank defaults

Where a name without a value gets a blank default, a template gives the same as before: a
placeholder gives no text either way, and neither nothing nor a text is a list to go through. Only a
condition can tell the two apart, so the names must not be among the paths that conditions read.

## Key results

- `lookup_of_padded`: what a blank default changes about a path.
- `outcomes_padded`: it changes nothing about nodes whose conditions do not read the names.
- `renderIn_padded`: nor about a rendering.
-/

namespace Stencil

namespace Scope

/-- The second scope has the defaults of the first one, and blank ones for some more of the
names. -/
structure Padded (names : List String) (s s' : Scope) : Prop where
  data : s'.data = s.data
  bindings : s'.bindings = s.bindings
  defaults : ∀ path, s'.defaults.get? path = s.defaults.get? path ∨
    path ∈ names ∧ s.defaults.get? path = none ∧ s'.defaults.get? path = some ""

theorem padded_bind (names : List String) (s s' : Scope) (h : Padded names s s') (item : String)
    (element : Value) : Padded names (s.bind item element) (s'.bind item element) :=
  ⟨h.data, congrArg (Entries.put · item element) h.bindings, h.defaults⟩

/-- A path has the value it had, or it is one of the names, had no value and has a blank text. -/
theorem lookup_of_padded (names : List String) (s s' : Scope) (h : Padded names s s')
    (path : String) : s'.lookup path = s.lookup path ∨
      path ∈ names ∧ s.lookup path = .undefined ∧ s'.lookup path = .text "" := by
  unfold lookup lookupOutside
  rw [h.data, h.bindings]
  cases s.bindings.get? (firstSegment path) with
  | some element => exact .inl rfl
  | none =>
    -- only what is not in the data is looked for in the defaults
    cases s.data.resolve path with
    | undefined =>
      rcases h.defaults path with heq | ⟨hname, hnone, hblank⟩
      · rw [heq]
        exact .inl rfl
      · rw [hnone, hblank]
        exact .inr ⟨hname, rfl, rfl⟩
    | _ => exact .inl rfl

theorem lookupText_of_padded (names : List String) (s s' : Scope) (h : Padded names s s')
    (path : String) : s'.lookupText path = s.lookupText path := by
  unfold lookupText
  rcases lookup_of_padded names s s' h path with heq | ⟨-, hundefined, hblank⟩
  · rw [heq]
  · rw [hundefined, hblank]
    rfl

end Scope

namespace Template

/-- The paths that a condition reads at a stop of a walk. -/
def Waypoint.conditionPaths : Waypoint → List String
  | opening (.conditional expression) _ => Condition.pathsOf expression
  | _ => []

/-- The paths that the conditions among nodes read, at any depth. -/
def Node.conditionPaths (nodes : List Node) : List String :=
  (walkAll nodes).flatMap Waypoint.conditionPaths

end Template

namespace Renderer

open Template

variable {names : List String}

mutual

/-- A node gives the same with blank defaults, if no condition in it reads one of the names. -/
theorem outcome_padded (node : Node)
    (hnode : ∀ w ∈ node.walk, ∀ path ∈ w.conditionPaths, path ∉ names) (s s' : Scope)
    (hs : Scope.Padded names s s') : outcome s' node = outcome s node := by
  cases node with
  | text content => rfl
  | placeholder name offset =>
    rw [outcome, outcome, Scope.lookupText_of_padded names s s' hs name]
  | loop item collection offset body =>
    rw [Node.walk] at hnode
    have hbody : ∀ element, outcomes (s'.bind item element) body =
        outcomes (s.bind item element) body := fun element =>
      outcomes_padded body
        (fun w hw => hnode w (List.mem_cons_of_mem _ (List.mem_append_left _ hw))) _ _
        (Scope.padded_bind names s s' hs item element)
    unfold outcome
    rcases Scope.lookup_of_padded names s s' hs collection with heq | ⟨-, hundefined, hblank⟩
    · rw [heq]
      simp only [hbody]
    · -- a blank text is no list, and nothing is none
      rw [hundefined, hblank]
  | conditional expression offset body =>
    rw [Node.walk] at hnode
    have hjudge : judgeIn s' expression = judgeIn s expression := by
      refine judgeIn_congr s' s expression fun path hpath => ?_
      rcases Scope.lookup_of_padded names s s' hs path with heq | ⟨hname, -, -⟩
      · exact heq
      · exact absurd hname (hnode _ List.mem_cons_self path hpath)
    have hbody := outcomes_padded body
      (fun w hw => hnode w (List.mem_cons_of_mem _ (List.mem_append_left _ hw))) s s' hs
    unfold outcome
    rw [hjudge, hbody]

/-- Nodes give the same with blank defaults, if no condition in them reads one of the names. -/
theorem outcomes_padded (nodes : List Node)
    (hnodes : ∀ w ∈ Node.walkAll nodes, ∀ path ∈ w.conditionPaths, path ∉ names) (s s' : Scope)
    (hs : Scope.Padded names s s') : outcomes s' nodes = outcomes s nodes := by
  cases nodes with
  | nil => rfl
  | cons node rest =>
    rw [Node.walkAll] at hnodes
    rw [outcomes, outcomes,
      outcome_padded node (fun w hw => hnodes w (List.mem_append_left _ hw)) s s' hs,
      outcomes_padded rest (fun w hw => hnodes w (List.mem_append_right _ hw)) s s' hs]

end

/-- Blank defaults do not change a rendering whose conditions do not read the names. -/
theorem renderIn_padded (nodes : List Node)
    (hnodes : ∀ path ∈ Node.conditionPaths nodes, path ∉ names)
    (s s' : Scope) (hs : Scope.Padded names s s') : renderIn s' nodes = renderIn s nodes := by
  rw [renderIn_eq_outcomes, renderIn_eq_outcomes]
  refine outcomes_padded nodes (fun w hw path hpath => ?_) s s' hs
  exact hnodes path (List.mem_flatMap.2 ⟨w, hw, hpath⟩)

end Renderer

end Stencil
