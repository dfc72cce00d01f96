import Stencil.Proofs.BlockReading
import Stencil.Proofs.TokenAlone
import Stencil.Template.Basic

/-!
# Balanced templates

The markers of a template are read without a problem exactly if its directives are a balanced word
over two kinds of brackets, and then nothing is lost in the block tree: a walk through it in the
order of the text meets the tokens of the template one by one.

A builder that has found no problem keeps all that was read: the nodes before each open block, the
marker of that block, and so on inward (`Builder.walk`). Each step adds the token that was read at
the end (`walk_step`). At the end of a template without a problem no block is open, so the walk
through the builder is the walk through the tree, and the brackets of a tree are balanced by its
structure. The other direction is by induction on the balanced word: reading it adds nodes and
changes nothing else (`foldl_read_of_balanced`).

## Key results

- `walk_step`: one step without a problem, seen by the walk.
- `walkAll_ofTokens`: the walk through the tree of a template without a problem.
- `problems_eq_nil_iff`: a template has no problem exactly if its directives are balanced.
- `nesting_balanced`: both for templates, and the walk compared with the outline.
-/

namespace Stencil.Template

/-! ## Balanced words -/

/-- A directive, as a bracket of its kind of block. -/
inductive Bracket where
  | opening (kind : BlockKind)
  | closing (kind : BlockKind)
deriving Repr, DecidableEq

def Directive.bracket : Directive → Bracket
  | .opening head => .opening head.kind
  | .closing kind => .closing kind

/-- The bracket that a token is, if it is a directive at all. -/
def Token.bracket? (t : Token) : Option Bracket := t.directive?.map Directive.bracket

/-- Words in which each bracket has its partner. -/
inductive Balanced : List Bracket → Prop
  | nil : Balanced []
  | block (kind : BlockKind) (u v : List Bracket) : Balanced u → Balanced v →
      Balanced (.opening kind :: (u ++ .closing kind :: v))

theorem Balanced.append (u v : List Bracket) (hu : Balanced u) (hv : Balanced v) :
    Balanced (u ++ v) := by
  induction hu with
  | nil => exact hv
  | block kind u u' hu _ _ ih =>
    have h := Balanced.block kind u (u' ++ v) hu ih
    simpa using h

/-! ## Walks -/

/-- What a walk through a block tree meets. -/
inductive Waypoint where
  | text (content : String)
  | placeholder (name : String) (offset : Nat)
  | opening (head : Head) (offset : Nat)
  | closing (kind : BlockKind)
deriving Repr, DecidableEq

namespace Waypoint

def bracket? : Waypoint → Option Bracket
  | opening head _ => some (.opening head.kind)
  | closing kind => some (.closing kind)
  | _ => none

end Waypoint

namespace Node

mutual

/-- The walk through a node: a block is entered, walked through and left. -/
def walk : Node → List Waypoint
  | text content => [.text content]
  | placeholder name offset => [.placeholder name offset]
  | loop item collection offset body =>
    .opening (.loop item collection) offset :: (walkAll body ++ [.closing .loop])
  | conditional expression offset body =>
    .opening (.conditional expression) offset :: (walkAll body ++ [.closing .conditional])

/-- The walk through nodes, one after another. -/
def walkAll : List Node → List Waypoint
  | [] => []
  | node :: nodes => node.walk ++ walkAll nodes

end

theorem walk_block (offset : Nat) (body : List Node) (head : Head) :
    (block offset body head).walk =
      .opening head offset :: (walkAll body ++ [.closing head.kind]) := by
  cases head <;> simp [block, walk, Head.kind]

theorem walkAll_append (ns ms : List Node) : walkAll (ns ++ ms) = walkAll ns ++ walkAll ms := by
  induction ns with
  | nil => simp [walkAll]
  | cons node ns ih => simp [walkAll, ih]

mutual

/-- The brackets that a walk through a node meets are balanced. -/
theorem balanced_walk (node : Node) : Balanced (node.walk.filterMap Waypoint.bracket?) := by
  cases node with
  | text content => exact .nil
  | placeholder name offset => exact .nil
  | loop item collection offset body =>
    have h := Balanced.block .loop _ [] (balanced_walkAll body) .nil
    simpa [walk, Waypoint.bracket?, Head.kind] using h
  | conditional expression offset body =>
    have h := Balanced.block .conditional _ [] (balanced_walkAll body) .nil
    simpa [walk, Waypoint.bracket?, Head.kind] using h

/-- The brackets that a walk through nodes meets are balanced. -/
theorem balanced_walkAll (nodes : List Node) :
    Balanced ((walkAll nodes).filterMap Waypoint.bracket?) := by
  cases nodes with
  | nil => exact .nil
  | cons node nodes =>
    rw [walkAll, List.filterMap_append]
    exact (balanced_walk node).append _ _ (balanced_walkAll nodes)

end

end Node

/-- What a token is on a walk. A directive that is none is the text of its marker. -/
def Token.waypoint (t : Token) : Waypoint :=
  match t.directive? with
  | some (.opening head) => .opening head t.offset
  | some (.closing kind) => .closing kind
  | none =>
    match t.shape with
    | .placeholder => .placeholder t.value t.offset
    | .directive => .text t.raw
    | _ => .text t.value

theorem Token.walk_leaf (t : Token) (h : t.directive? = none) : t.leaf.walk = [t.waypoint] := by
  unfold leaf waypoint
  rw [h]
  cases t.shape <;> simp [Node.walk]

theorem Token.bracket?_waypoint (t : Token) : t.waypoint.bracket? = t.bracket? := by
  unfold waypoint bracket?
  cases hd : t.directive? with
  | some d => cases d <;> rfl
  | none => cases t.shape <;> rfl

namespace Builder

/-- The walk up to the innermost open body. -/
def walkOpen : List OpenBlock → List Waypoint
  | [] => []
  | top :: rest =>
    walkOpen rest ++ Node.walkAll top.before.reverse ++ [.opening top.head top.token.offset]

/-- The walk through all that was read. -/
def walk (b : Builder) : List Waypoint := walkOpen b.stack ++ Node.walkAll b.body.reverse

theorem walk_add (b : Builder) (node : Node) : (b.add node).walk = b.walk ++ node.walk := by
  simp [walk, add, Node.walkAll_append, Node.walkAll]

/-- A step without a problem adds what was read to the walk. -/
theorem walk_step (b b' : Builder) (t : Token) (h : Step b t b') (hb' : b'.problems = []) :
    b'.walk = b.walk ++ [t.waypoint] := by
  cases h with
  | leaf hd => rw [walk_add, t.walk_leaf hd]
  | opening head hd =>
    have ht : t.waypoint = .opening head t.offset := by simp [Token.waypoint, hd]
    simp [walk, enter, walkOpen, Node.walkAll, ht]
  | closing kind inner top outer hd hstack hinner htop =>
    have ht : t.waypoint = .closing kind := by simp [Token.waypoint, hd]
    -- a block inside the one that is ended would be a problem
    have hnone : inner = [] := by simpa [closed] using (List.append_eq_nil_iff.1 hb').1
    subst hnone
    simp [walk, closed, merge, hstack, walkOpen, Node.walkAll_append, Node.walkAll,
      Node.walk_block, ht, htop]
  | stray kind => cases hb'

/-- A reading without a problem adds all that was read to the walk. -/
theorem walk_foldl (b : Builder) (ts : List Token) (h : (ts.foldl read b).problems = []) :
    (ts.foldl read b).walk = b.walk ++ ts.map Token.waypoint := by
  induction ts generalizing b with
  | nil => simp
  | cons t ts ih =>
    rw [List.foldl_cons] at h ⊢
    have hnow := problems_eq_nil_of_foldl (b.read t) ts h
    rw [ih (b.read t) h, walk_step b _ t (read_step b t) hnow, List.map_cons, List.append_assoc,
      List.singleton_append]

end Builder

/-- The walk through the tree of tokens without a problem meets the tokens one by one. -/
theorem walkAll_ofTokens (ts : List Token) (h : (Tree.ofTokens ts).problems = []) :
    Node.walkAll (Tree.ofTokens ts).nodes = ts.map Token.waypoint := by
  have hend := Builder.foldl_read_of_problems_eq_nil ts h
  have hwalk := Builder.walk_foldl .start ts (by rw [hend])
  rw [hend] at hwalk
  simpa [Builder.walk, Builder.walkOpen, Builder.start, Node.walkAll] using hwalk

/-! ## Reading balanced directives -/

/-- A token that opens a block has a head. -/
theorem Token.exists_head (t : Token) (kind : BlockKind) (h : t.bracket? = some (.opening kind)) :
    ∃ head, t.directive? = some (.opening head) ∧ head.kind = kind := by
  obtain ⟨d, hd, hbracket⟩ := Option.map_eq_some_iff.1 h
  cases d with
  | opening head => exact ⟨head, hd, Bracket.opening.inj hbracket⟩
  | closing => cases hbracket

theorem Token.directive?_of_closing (t : Token) (kind : BlockKind)
    (h : t.bracket? = some (.closing kind)) : t.directive? = some (.closing kind) := by
  obtain ⟨d, hd, hbracket⟩ := Option.map_eq_some_iff.1 h
  cases d with
  | opening => cases hbracket
  | closing => rw [hd, Bracket.closing.inj hbracket]

namespace Builder

/-- Tokens that are no directives add nodes. -/
theorem foldl_read_of_leaves (b : Builder) (ts : List Token)
    (h : ∀ t ∈ ts, t.bracket? = none) : ∃ nodes, ts.foldl read b = b.addAll nodes := by
  induction ts generalizing b with
  | nil => exact ⟨[], rfl⟩
  | cons t ts ih =>
    have hd : t.directive? = none := by
      simpa [Token.bracket?] using h t List.mem_cons_self
    have hread : b.read t = b.add t.leaf := by rw [read_eq, hd]
    obtain ⟨nodes, hnodes⟩ := ih (b.add t.leaf) fun u hu => h u (List.mem_cons_of_mem t hu)
    refine ⟨nodes ++ [t.leaf], ?_⟩
    rw [List.foldl_cons, hread, hnodes]
    simp [addAll, add]

/-- Tokens with balanced directives add nodes to the innermost open body, and do no more. -/
theorem foldl_read_of_balanced (w : List Bracket) (hw : Balanced w) (b : Builder)
    (ts : List Token) (hts : ts.filterMap Token.bracket? = w) :
    ∃ nodes, ts.foldl read b = b.addAll nodes := by
  induction hw generalizing b ts with
  | nil => exact foldl_read_of_leaves b ts (List.filterMap_eq_nil_iff.1 hts)
  | block kind u v _ _ ihu ihv =>
    -- the tokens before the block, its two markers, and the tokens inside and behind it
    obtain ⟨before, first, ts₁, rfl, hbefore, hfirst, hts₁⟩ := List.filterMap_eq_cons_iff.1 hts
    obtain ⟨inner, ts₂, rfl, hinner, hts₂⟩ := List.filterMap_eq_append_iff.1 hts₁
    obtain ⟨leaves, last, behind, rfl, hleaves, hlast, hbehind⟩ :=
      List.filterMap_eq_cons_iff.1 hts₂
    obtain ⟨head, hhead, rfl⟩ := first.exists_head kind hfirst
    have hclosing := last.directive?_of_closing head.kind hlast
    -- what stands between the last directive inside and the closing marker is in the block
    have hbody : (inner ++ leaves).filterMap Token.bracket? = u := by
      rw [List.filterMap_append, hinner, List.filterMap_eq_nil_iff.2 hleaves, List.append_nil]
    obtain ⟨n₁, h₁⟩ := foldl_read_of_leaves b before hbefore
    obtain ⟨n₂, h₂⟩ := ihu ((b.addAll n₁).enter first head) (inner ++ leaves) hbody
    have hblock := foldl_read_block _ first last head _ n₂ hhead hclosing h₂
    obtain ⟨n₃, h₃⟩ :=
      ihv ((b.addAll n₁).add (.block first.offset n₂.reverse head)) behind hbehind
    refine ⟨n₃ ++ .block first.offset n₂.reverse head :: n₁, ?_⟩
    have hsplit : before ++ first :: (inner ++ (leaves ++ last :: behind)) =
        before ++ ((first :: (inner ++ leaves ++ [last])) ++ behind) := by simp
    rw [hsplit, List.foldl_append, h₁, List.foldl_append, hblock, h₃]
    simp [addAll, add]

end Builder

/-- A template has no problem exactly if its directives are balanced. -/
theorem problems_eq_nil_iff (ts : List Token) :
    (Tree.ofTokens ts).problems = [] ↔ Balanced (ts.filterMap Token.bracket?) := by
  constructor
  · intro h
    -- the brackets of the tokens are those of the tree
    have hbalanced := Node.balanced_walkAll (Tree.ofTokens ts).nodes
    rw [walkAll_ofTokens ts h, List.filterMap_map] at hbalanced
    rwa [← funext Token.bracket?_waypoint]
  · intro h
    obtain ⟨nodes, hnodes⟩ := Builder.foldl_read_of_balanced _ h .start ts rfl
    rw [Tree.ofTokens, hnodes]
    rfl

/-! ## The walk and the outline -/

/-- A text that is the marker of a directive that is none. -/
def isUnrecognised (content : String) : Bool :=
  match pieces content.toList with
  | [p] => p.shape = .directive && (Directive.classify p.value).isNone
  | _ => false

namespace Waypoint

def isUnrecognised : Waypoint → Bool
  | text content => Template.isUnrecognised content
  | _ => false

end Waypoint

/-- What an event is on a walk, which does not tell where a block is closed. -/
def Event.waypoint : Event → Waypoint
  | .text content => .text content
  | .placeholder name offset => .placeholder name offset
  | .opening head offset => .opening head offset
  | .closing kind _ => .closing kind

/-- The marker of a directive is told from text by its source text alone. -/
theorem isUnrecognised_raw (s : List Char) (p : Piece) (hp : p ∈ pieces s) :
    isUnrecognised p.raw =
      (decide (p.shape = .directive) && (Directive.classify p.value).isNone) := by
  rw [isUnrecognised, pieces_raw s p hp]

/-- A token of a text has no event exactly if it is the marker of a directive that is none. -/
theorem Token.map_waypoint_event? (s : List Char) (t : Token) (ht : t.toPiece ∈ pieces s) :
    t.event?.map Event.waypoint =
      if t.waypoint.isUnrecognised then none else some t.waypoint := by
  have hraw := isUnrecognised_raw s t.toPiece ht
  have hvalue := value_eq_raw _ _ _ (readPiece?_of_mem_pieces s t.toPiece ht)
  unfold event? waypoint directive?
  cases hshape : t.shape with
  | placeholder => simp [Waypoint.isUnrecognised, Event.waypoint]
  | directive =>
    cases hd : Directive.classify t.value with
    | some d => cases d <;> simp [Waypoint.isUnrecognised, Event.waypoint]
    | none => simp [Waypoint.isUnrecognised, hraw, hshape, hd]
  | _ =>
    -- text is its own source text, and that is no directive
    simp [Waypoint.isUnrecognised, Event.waypoint, hvalue, hraw, hshape, Shape.isText]

/-- The walk without the markers of directives that are none is the outline. -/
theorem filter_map_waypoint (s : List Char) (ts : List Token)
    (hts : ∀ t ∈ ts, t.toPiece ∈ pieces s) :
    (ts.map Token.waypoint).filter (fun w => !w.isUnrecognised) =
      (ts.filterMap Token.event?).map Event.waypoint := by
  induction ts with
  | nil => rfl
  | cons t ts ih =>
    have ht := t.map_waypoint_event? s (hts t List.mem_cons_self)
    have ih := ih fun u hu => hts u (List.mem_cons_of_mem t hu)
    rw [List.map_cons, List.filter_cons, ih, List.filterMap_cons]
    by_cases hw : t.waypoint.isUnrecognised = true
    · rw [if_pos hw, Option.map_eq_none_iff] at ht
      simp [hw, ht]
    · rw [if_neg hw, Option.map_eq_some_iff] at ht
      obtain ⟨e, he, hwaypoint⟩ := ht
      simp [hw, he, hwaypoint]

/-- The nesting of a template is accepted exactly if its directives are a balanced word. Then the
walk through its block tree meets its tokens one by one, and without the markers of directives that
are none it is the outline of the template. -/
theorem nesting_balanced (source : String) :
    ((parse source).problems = [] ↔
      Balanced ((tokenize (parse source).body).tokens.filterMap Token.bracket?)) ∧
    ((parse source).problems = [] →
      Node.walkAll (parse source).nodes =
          (tokenize (parse source).body).tokens.map Token.waypoint ∧
        (Node.walkAll (parse source).nodes).filter (fun w => !w.isUnrecognised) =
          (parse source).outline.events.map Event.waypoint) := by
  generalize htext : (parse source).body = text
  have hnodes : (parse source).nodes = (Tree.ofTokens (tokenize text).tokens).nodes := by
    rw [← htext]
    rfl
  have hproblems : (parse source).problems = (Tree.ofTokens (tokenize text).tokens).problems := by
    rw [← htext]
    rfl
  have hevents :
      (parse source).outline.events = (tokenize text).tokens.filterMap Token.event? := by
    rw [← htext]
    rfl
  have hpieces : ∀ t ∈ (tokenize text).tokens, t.toPiece ∈ pieces text.toList := by
    intro t ht
    rw [← map_toPiece_tokenize]
    exact List.mem_map_of_mem ht
  rw [hnodes, hproblems, hevents]
  refine ⟨problems_eq_nil_iff _, ?_⟩
  intro h
  have hwalk := walkAll_ofTokens (tokenize text).tokens h
  refine ⟨hwalk, ?_⟩
  rw [hwalk]
  exact filter_map_waypoint text.toList _ hpieces

end Stencil.Template
