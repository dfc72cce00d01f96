import Stencil.Proofs.BalancedNesting
import Stencil.Proofs.ConditionPaths
import Stencil.Proofs.NestingRepair
import Stencil.Proofs.RenderOutcome
import Stencil.Proofs.StrictReading

/-!
# What a block tree reads

The nodes of a tree read paths: those of their placeholders, of the collections of their loops and
of their conditions. A rendering depends on the scope through these paths only. Since a loop makes
new scopes, this is told for two scopes that go side by side: `Paired` holds of a relation between
scopes that agree on the paths and stay related when both bind the same element.

What stands in the tree of a template stands in its tokens, whatever is wrong with its nesting:
with the reported markers made text (`ofTokensStrict_repair`), the walk through the tree is the
walk along the tokens.

## Key results

- `outcomes_congr`: paired scopes give the same.
- `walkAll_eq_repair`, `mem_walkAll_ofTokens`: what a walk through a tree meets, by its tokens.
- `exists_token_of_opening`: the heads in the tree of a template are those of its directives.
-/

namespace Stencil.Template

/-! ## Paths and items -/

namespace Waypoint

/-- The paths that are read at a stop of a walk. -/
def paths : Waypoint → List String
  | text _ | closing _ => []
  | placeholder name _ => [name]
  | opening (.loop _ collection) _ => [collection]
  | opening (.conditional expression) _ => Condition.pathsOf expression

/-- The items that are bound at a stop of a walk. -/
def items : Waypoint → List String
  | opening (.loop item _) _ => [item]
  | _ => []

end Waypoint

namespace Node

/-- The paths that nodes read. -/
def readPaths (nodes : List Node) : List String := (walkAll nodes).flatMap Waypoint.paths

/-- The items that the loops among nodes bind, at any depth. -/
def boundItems (nodes : List Node) : List String := (walkAll nodes).flatMap Waypoint.items

theorem boundItems_cons (node : Node) (rest : List Node) :
    boundItems (node :: rest) = boundItems [node] ++ boundItems rest := by
  simp [boundItems, walkAll]

theorem boundItems_loop (item collection : String) (offset : Nat) (body : List Node) :
    boundItems [.loop item collection offset body] = item :: boundItems body := by
  simp [boundItems, walkAll, walk, Waypoint.items]

theorem boundItems_conditional (expression : String) (offset : Nat) (body : List Node) :
    boundItems [.conditional expression offset body] = boundItems body := by
  simp [boundItems, walkAll, walk, Waypoint.items]

/-- The node is one of the nodes or stands in one of them, at any depth. -/
inductive Occurs (node : Node) : List Node → Prop
  | here (rest : List Node) : Occurs node (node :: rest)
  | later (other : Node) (rest : List Node) : Occurs node rest → Occurs node (other :: rest)
  | inLoop (item collection : String) (offset : Nat) (body rest : List Node) :
      Occurs node body → Occurs node (.loop item collection offset body :: rest)
  | inConditional (expression : String) (offset : Nat) (body rest : List Node) :
      Occurs node body → Occurs node (.conditional expression offset body :: rest)

/-- A walk through nodes goes through each node that occurs in them. -/
theorem Occurs.walk_subset {node : Node} {nodes : List Node} (h : Occurs node nodes) :
    node.walk ⊆ walkAll nodes := by
  induction h with
  | here rest =>
    rw [walkAll]
    exact List.subset_append_left _ _
  | later other rest _ ih =>
    rw [walkAll]
    intro w hw
    exact List.mem_append_right _ (ih hw)
  | inLoop item collection offset body rest _ ih =>
    rw [walkAll, walk]
    intro w hw
    exact List.mem_append_left _ (List.mem_cons_of_mem _ (List.mem_append_left _ (ih hw)))
  | inConditional expression offset body rest _ ih =>
    rw [walkAll, walk]
    intro w hw
    exact List.mem_append_left _ (List.mem_cons_of_mem _ (List.mem_append_left _ (ih hw)))

end Node

end Stencil.Template

/-! ## Scopes side by side -/

namespace Stencil

/-- Scopes in pairs: both read the same along the paths, and when both bind an element to one of the
items they are a pair again. -/
structure Scope.Paired (pair : Scope → Scope → Prop) (paths items : List String) : Prop where
  lookup : ∀ s s', pair s s' → ∀ path ∈ paths, s.lookup path = s'.lookup path
  bind : ∀ s s', pair s s' → ∀ item ∈ items, ∀ element,
    pair (s.bind item element) (s'.bind item element)

namespace Renderer

open Template

/-- A condition is judged alike in scopes that agree on its paths. -/
theorem judgeIn_congr (s s' : Scope) (text : String)
    (h : ∀ path ∈ Condition.pathsOf text, s.lookup path = s'.lookup path) :
    judgeIn s text = judgeIn s' text := by
  rw [judgeIn_eq_verdict, judgeIn_eq_verdict, Condition.evaluate_congr s.lookup s'.lookup text h]

section

variable {pair : Scope → Scope → Prop} {paths items : List String}

mutual

/-- A node gives the same in paired scopes. -/
theorem outcome_congr (hpair : Scope.Paired pair paths items) (node : Node)
    (hnode : ∀ w ∈ node.walk, w.paths ⊆ paths ∧ w.items ⊆ items) (s s' : Scope) (hs : pair s s') :
    outcome s node = outcome s' node := by
  cases node with
  | text content => rfl
  | placeholder name offset =>
    obtain ⟨hname, -⟩ := hnode _ (List.mem_singleton_self _)
    have hlookup := hpair.lookup s s' hs name (hname (List.mem_singleton_self name))
    rw [outcome, outcome, Scope.lookupText, Scope.lookupText, hlookup]
  | loop item collection offset body =>
    rw [Node.walk] at hnode
    obtain ⟨hcollection, hitem⟩ := hnode _ List.mem_cons_self
    have hlookup := hpair.lookup s s' hs collection (hcollection (List.mem_singleton_self _))
    -- both scopes bind the same element in each turn
    have hbody : ∀ element, outcomes (s.bind item element) body =
        outcomes (s'.bind item element) body := fun element =>
      outcomes_congr hpair body
        (fun w hw => hnode w (List.mem_cons_of_mem _ (List.mem_append_left _ hw))) _ _
        (hpair.bind s s' hs item (hitem (List.mem_singleton_self item)) element)
    unfold outcome
    rw [hlookup]
    simp only [hbody]
  | conditional expression offset body =>
    rw [Node.walk] at hnode
    obtain ⟨hpaths, -⟩ := hnode _ List.mem_cons_self
    have hjudge := judgeIn_congr s s' expression fun path hpath =>
      hpair.lookup s s' hs path (hpaths hpath)
    have hbody := outcomes_congr hpair body
      (fun w hw => hnode w (List.mem_cons_of_mem _ (List.mem_append_left _ hw))) s s' hs
    unfold outcome
    rw [hjudge, hbody]

/-- Nodes give the same in paired scopes. -/
theorem outcomes_congr (hpair : Scope.Paired pair paths items) (nodes : List Node)
    (hnodes : ∀ w ∈ Node.walkAll nodes, w.paths ⊆ paths ∧ w.items ⊆ items) (s s' : Scope)
    (hs : pair s s') : outcomes s nodes = outcomes s' nodes := by
  cases nodes with
  | nil => rfl
  | cons node rest =>
    rw [Node.walkAll] at hnodes
    rw [outcomes, outcomes,
      outcome_congr hpair node (fun w hw => hnodes w (List.mem_append_left _ hw)) s s' hs,
      outcomes_congr hpair rest (fun w hw => hnodes w (List.mem_append_right _ hw)) s s' hs]

end

end

/-- Nodes are rendered alike in two scopes that are paired on what the nodes read and bind. -/
theorem renderIn_congr (pair : Scope → Scope → Prop) (nodes : List Node)
    (hpair : Scope.Paired pair (Node.readPaths nodes) (Node.boundItems nodes)) (s s' : Scope)
    (hs : pair s s') : renderIn s nodes = renderIn s' nodes := by
  rw [renderIn_eq_outcomes, renderIn_eq_outcomes]
  refine outcomes_congr hpair nodes (fun w hw => ⟨?_, ?_⟩) s s' hs
  · exact fun path hpath => List.mem_flatMap.2 ⟨w, hw, hpath⟩
  · exact fun item hitem => List.mem_flatMap.2 ⟨w, hw, hitem⟩

end Renderer

namespace Template

/-! ## The tokens of a tree -/

/-- A template that is cut into its defaults and its body. -/
theorem parse_of_extract (source body : String) (defaults : Defaults)
    (h : Defaults.extract source = (defaults, body)) :
    parse source = ⟨defaults, body, .ofText body, (Tree.ofTokens (tokenize body).tokens).nodes,
      (Tree.ofTokens (tokenize body).tokens).problems⟩ := by
  rw [parse, h]
  rfl

/-- A template in which no defaults block is opened is its own body. -/
theorem parse_of_cut?_eq_none (source : String)
    (h : Text.cut? Defaults.openingMarker source.toList = none) :
    parse source = ⟨[], source, .ofText source, (Tree.ofTokens (tokenize source).tokens).nodes,
      (Tree.ofTokens (tokenize source).tokens).problems⟩ := by
  have hblock : Defaults.Block.find? source.toList = none := by
    rw [Defaults.Block.find?, h]
    rfl
  refine parse_of_extract source source [] ?_
  rw [Defaults.extract, hblock]

/-- The walk through a tree meets the tokens one by one, those with a problem as text. -/
theorem walkAll_eq_repair (ts : List Token) (hdistinct : (ts.map (·.offset)).Nodup) :
    Node.walkAll (Tree.ofTokens ts).nodes =
      (repair (offsets (Tree.ofTokens ts).problems) ts).map Token.waypoint := by
  -- the tree is that of the repaired tokens, and those have no problem
  have hrepair := ofTokensStrict_repair ts hdistinct
  rw [ofTokensStrict_eq] at hrepair
  generalize offsets (Tree.ofTokens ts).problems = doomed at hrepair ⊢
  cases hproblems : (Tree.ofTokens (repair doomed ts)).problems with
  | cons first rest =>
    rw [hproblems] at hrepair
    cases hrepair
  | nil =>
    rw [hproblems] at hrepair
    rw [← Except.ok.inj hrepair, walkAll_ofTokens _ hproblems]

/-- What a walk through a tree meets is a token as it is read, or the source text of one. -/
theorem mem_walkAll_ofTokens (ts : List Token) (hdistinct : (ts.map (·.offset)).Nodup)
    (w : Waypoint) (hw : w ∈ Node.walkAll (Tree.ofTokens ts).nodes) :
    ∃ t ∈ ts, w = t.waypoint ∨ w = .text t.raw := by
  rw [walkAll_eq_repair ts hdistinct, repair, List.map_map] at hw
  obtain ⟨t, ht, rfl⟩ := List.mem_map.1 hw
  refine ⟨t, ht, ?_⟩
  dsimp only [Function.comp]
  split
  · -- a token made text is met as its source text
    exact .inr (congrArg Waypoint.text (String.ofList_toList))
  · exact .inl rfl

/-- What a walk through the tree of a template meets is in the tokens of its body. -/
theorem mem_walkAll_parse (source : String) (w : Waypoint)
    (hw : w ∈ Node.walkAll (parse source).nodes) :
    ∃ t ∈ (tokenize (parse source).body).tokens, w = t.waypoint ∨ w = .text t.raw :=
  mem_walkAll_ofTokens _ (nodup_offset_tokenize _) w hw

/-- The head of a block in the tree of a template is that of a directive in its body. -/
theorem exists_token_of_opening (source : String) (head : Head) (offset : Nat)
    (h : .opening head offset ∈ Node.walkAll (parse source).nodes) :
    ∃ t ∈ (tokenize (parse source).body).tokens, t.directive? = some (.opening head) := by
  obtain ⟨t, ht, hw | hw⟩ := mem_walkAll_parse source _ h
  · refine ⟨t, ht, ?_⟩
    unfold Token.waypoint at hw
    -- of all that a token can be met as, only an opening directive has a head
    cases hd : t.directive? with
    | none =>
      rw [hd] at hw
      dsimp only at hw
      split at hw <;> cases hw
    | some d =>
      rw [hd] at hw
      cases d with
      | opening head' =>
        cases hw
        rfl
      | closing kind => cases hw
  · cases hw

/-- The items that the tree of a template binds are in its outline. -/
theorem mem_items_of_mem_boundItems (source : String) (item : String)
    (h : item ∈ Node.boundItems (parse source).nodes) : item ∈ (parse source).outline.items := by
  obtain ⟨w, hw, hitem⟩ := List.mem_flatMap.1 h
  -- only the head of a loop binds an item
  cases w with
  | opening head offset =>
    cases head with
    | loop item' collection =>
      cases List.mem_singleton.1 hitem
      obtain ⟨t, ht, hd⟩ := exists_token_of_opening source _ offset hw
      have hhead : t.loopHead? = some ⟨item, collection, t.offset, t.stop⟩ := by
        rw [Token.loopHead?, hd]
      exact List.mem_map.2 ⟨_, List.mem_filterMap.2 ⟨t, ht, hhead⟩, rfl⟩
    | conditional expression => cases hitem
  | text content => cases hitem
  | placeholder name offset => cases hitem
  | closing kind => cases hitem

end Template

end Stencil
