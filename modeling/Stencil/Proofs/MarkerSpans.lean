import Mathlib.Data.List.Pairwise
import Stencil.Proofs.DirectiveReading
import Stencil.Proofs.MarkerPlaces

/-!
# Cutting a template by its offsets

The outline and the block tree of a template tell where their markers stand. Whoever cuts the
template by these offsets gets just those markers: the stretch of a descriptor is one directive that
is read as the head it describes, and at the offset of a name stands a placeholder that holds it.
No two stretches overlap, and the offsets increase in the order of the outline and in that of a walk
through the tree.

All of this comes down to tokens. A descriptor or an event is made of one token and has its offset.
So has a node, whatever is wrong with the nesting, because the walk through a tree meets the tokens
in their order (`walkAll_eq_repair`).

## Key results

- `slice_token`, `tokenize_slice`: the stretch of a token is its source text, and that token alone.
- `namedAt_of_mem_tokenize`: what stands at the offset of a placeholder.
- `pairwise_lt_filterMap`: offsets that are taken from tokens increase.
- `offsets_faithful`: the offsets of the outline and of the block tree.
-/

namespace Stencil.Text

/-- The characters from the offset `start` up to the offset `stop`. -/
def slice (s : List Char) (start stop : Nat) : List Char := (s.take stop).drop start

theorem slice_append (before s after : List Char) :
    slice (before ++ (s ++ after)) before.length (before.length + s.length) = s := by
  simp [slice, List.take_append]

end Stencil.Text

namespace Stencil.Template

open Stencil.Text

/-! ## Stretches of tokens -/

section

variable (text : String) (t : Token) (ht : t ∈ (tokenize text).tokens)
include ht

/-- A token stands at its offset. -/
theorem exists_split_at_offset :
    ∃ before after, text.toList = before ++ (t.raw.toList ++ after) ∧ t.offset = before.length := by
  obtain ⟨before, after, htext, hplace⟩ := exists_split_of_mem_tokenize text t ht
  exact ⟨before, after, htext, by rw [Token.offset, hplace, Place.advance_start]⟩

/-- The stretch of a token is its source text. -/
theorem slice_token : slice text.toList t.offset t.stop = t.raw.toList := by
  obtain ⟨before, after, htext, hoffset⟩ := exists_split_at_offset text t ht
  have hstop : t.stop = before.length + t.raw.toList.length := by
    rw [← hoffset, String.length_toList]
    rfl
  rw [hstop, hoffset, htext, slice_append]

/-- The stretch of a token, cut into tokens by itself, is that token. -/
theorem tokenize_slice :
    (tokenize (String.ofList (slice text.toList t.offset t.stop))).tokens =
      [⟨t.toPiece, .start⟩] := by
  have hmem : t.toPiece ∈ pieces text.toList := by
    rw [← map_toPiece_tokenize]
    exact List.mem_map_of_mem ht
  rw [tokenize, String.toList_ofList, slice_token text t ht, pieces_raw _ _ hmem]
  rfl

end

/-- The characters from the offset `start` up to the offset `stop` are one directive by themselves,
and it is read as the given head. -/
def IsHeadAt (s : List Char) (start stop : Nat) (head : Head) : Prop :=
  ∃ t, (tokenize (String.ofList (slice s start stop))).tokens = [t] ∧ t.shape = .directive ∧
    Directive.classify t.value = some (.opening head)

theorem isHeadAt_of_mem_tokenize (text : String) (t : Token) (ht : t ∈ (tokenize text).tokens)
    (head : Head) (h : t.directive? = some (.opening head)) :
    IsHeadAt text.toList t.offset t.stop head := by
  refine ⟨_, tokenize_slice text t ht, ?_⟩
  unfold Token.directive? at h
  split at h
  · next hshape => exact ⟨hshape, h⟩
  · cases h

/-! ## Placeholders -/

/-- At the offset `i` stands the opening marker of a placeholder, and what stands between it and the
first closing marker behind it is the name, trimmed. -/
def NamedAt (s : List Char) (i : Nat) (name : String) : Prop :=
  OccursAt ['{', '{'] s i ∧
    ∃ j, FirstAt ['}', '}'] s (i + 2) j ∧ trim (slice s (i + 2) j) = name.toList

/-- A placeholder stands at its offset. -/
theorem namedAt_of_mem_tokenize (text : String) (t : Token) (ht : t ∈ (tokenize text).tokens)
    (hshape : t.shape = .placeholder) : NamedAt text.toList t.offset t.value := by
  obtain ⟨before, after, htext, hoffset⟩ := exists_split_at_offset text t ht
  obtain ⟨-, hfits⟩ := (tokenize_tiles text).2.2.2 t ht
  simp only [Piece.FitsAt, hshape] at hfits
  obtain ⟨⟨-, j, hfirst, hj⟩, ⟨inner, hraw, hvalue⟩, -, -⟩ := hfits
  -- the first closing marker is the one that the token ends with
  have hlength : t.raw.length = inner.length + 4 := by
    rw [← String.length_toList, hraw]
    simp
  have hinner : t.offset + 2 + inner.length = j := by
    simp only [hlength, List.length_cons, List.length_nil] at hj
    omega
  constructor
  · rw [htext, hoffset, occursAt_length, hraw]
    simp [List.cons_prefix_cons]
  · refine ⟨j, hfirst, ?_⟩
    have hbetween : text.toList =
        (before ++ ['{', '{']) ++ (inner ++ (['}', '}'] ++ after)) := by
      simp [htext, hraw]
    have hbefore : t.offset + 2 = (before ++ ['{', '{']).length := by simp [hoffset]
    rw [← hinner, hbefore, hbetween, slice_append, hvalue]

/-! ## Spans -/

/-- A stretch of a text, by the offsets of its first character and of the one behind it. -/
structure Span where
  start : Nat
  stop : Nat
deriving Repr, DecidableEq

/-- One of the two stretches ends before the other one starts. -/
def Span.Apart (a b : Span) : Prop := a.stop ≤ b.start ∨ b.stop ≤ a.start

instance (a b : Span) : Decidable (a.Apart b) :=
  inferInstanceAs (Decidable (a.stop ≤ b.start ∨ b.stop ≤ a.start))

def Token.span (t : Token) : Span := ⟨t.offset, t.stop⟩

def LoopHead.span (head : LoopHead) : Span := ⟨head.start, head.stop⟩

def ConditionalHead.span (head : ConditionalHead) : Span := ⟨head.start, head.stop⟩

/-- The spans of all loops and conditionals. -/
def Outline.spans (o : Outline) : List Span :=
  o.loops.map (·.span) ++ o.conditionals.map (·.span)

/-- A loop of an outline has the span of its token. -/
theorem LoopHead.span_eq (t : Token) (head : LoopHead) (h : t.loopHead? = some head) :
    head.span = t.span := by
  obtain ⟨-, hstart, hstop⟩ := t.eq_of_loopHead? head h
  rw [span, hstart, hstop, Token.span]

theorem ConditionalHead.span_eq (t : Token) (head : ConditionalHead)
    (h : t.conditionalHead? = some head) : head.span = t.span := by
  obtain ⟨-, hstart, hstop⟩ := t.eq_of_conditionalHead? head h
  rw [span, hstart, hstop, Token.span]

/-- Spans that are those of some of the tokens are apart. -/
theorem pairwise_apart_filterMap {α : Type} (f : Token → Option α) (span : α → Span)
    (h : ∀ t a, f t = some a → span a = t.span) (text : String) :
    (((tokenize text).tokens.filterMap f).map span).Pairwise Span.Apart := by
  rw [List.pairwise_map, List.pairwise_filterMap]
  apply (pairwise_stop_tokenize text).imp
  intro t u htu a ha b hb
  rw [h t a ha, h u b hb]
  exact .inl htu.2

/-- Two tokens of a template are apart. -/
theorem apart_of_mem_tokenize (text : String) (t u : Token) (ht : t ∈ (tokenize text).tokens)
    (hu : u ∈ (tokenize text).tokens) (hne : t ≠ u) : t.span.Apart u.span := by
  have hpairwise : (tokenize text).tokens.Pairwise fun t u => t.span.Apart u.span :=
    (pairwise_stop_tokenize text).imp fun h => .inl h.2
  have hsymm : Std.Symm fun t u : Token => t.span.Apart u.span := ⟨fun _ _ h => h.symm⟩
  exact hpairwise.forall ht hu hne

/-- The spans of the loops and conditionals of a text are apart. -/
theorem pairwise_apart_spans (text : String) : (Outline.ofText text).spans.Pairwise Span.Apart := by
  rw [Outline.spans, List.pairwise_append]
  refine ⟨?_, ?_, ?_⟩
  · exact pairwise_apart_filterMap _ _ LoopHead.span_eq text
  · exact pairwise_apart_filterMap _ _ ConditionalHead.span_eq text
  · -- a loop and a conditional come from different tokens
    intro a ha b hb
    obtain ⟨loop, hloop, rfl⟩ := List.mem_map.1 ha
    obtain ⟨conditional, hconditional, rfl⟩ := List.mem_map.1 hb
    obtain ⟨t, ht, hthead⟩ := List.mem_filterMap.1 hloop
    obtain ⟨u, hu, huhead⟩ := List.mem_filterMap.1 hconditional
    rw [LoopHead.span_eq t loop hthead, ConditionalHead.span_eq u conditional huhead]
    apply apart_of_mem_tokenize text t u ht hu
    intro htu
    obtain ⟨htd, -⟩ := t.eq_of_loopHead? loop hthead
    obtain ⟨hud, -⟩ := u.eq_of_conditionalHead? conditional huhead
    simp [htu, hud] at htd

/-! ## The order of offsets -/

/-- The offset of an event; text has none. -/
def Event.offset? : Event → Option Nat
  | text _ => none
  | placeholder _ offset | opening _ offset | closing _ offset => some offset

/-- The offset that a walk meets: a placeholder's or a block's, as it is entered. -/
def Waypoint.offset? : Waypoint → Option Nat
  | text _ | closing _ => none
  | placeholder _ offset | opening _ offset => some offset

/-- The offset of an event is that of its token. -/
theorem Token.offset_of_event? (t : Token) (offset : Nat)
    (h : t.event?.bind Event.offset? = some offset) : offset = t.offset := by
  unfold event? at h
  split at h
  · simpa [Event.offset?, eq_comm] using h
  · split at h <;> simp_all [Event.offset?]
  · simp [Event.offset?] at h

theorem Token.offset_of_waypoint (t : Token) (offset : Nat)
    (h : t.waypoint.offset? = some offset) : offset = t.offset := by
  unfold waypoint at h
  split at h
  · simpa [Waypoint.offset?, eq_comm] using h
  · simp [Waypoint.offset?] at h
  · split at h <;> simp_all [Waypoint.offset?]

/-- Offsets increase that are those of some of the tokens. -/
theorem pairwise_lt_filterMap (f : Token → Option Nat)
    (h : ∀ t offset, f t = some offset → offset = t.offset) (ts : List Token)
    (hts : (ts.map (·.offset)).Pairwise (· < ·)) : (ts.filterMap f).Pairwise (· < ·) := by
  rw [List.pairwise_filterMap]
  apply (List.pairwise_map.1 hts).imp
  intro t u htu i hi j hj
  rw [h t i hi, h u j hj]
  exact htu

/-- The offsets of the events of a text increase. -/
theorem pairwise_offset_events (text : String) :
    ((Outline.ofText text).events.filterMap Event.offset?).Pairwise (· < ·) := by
  show (((tokenize text).tokens.filterMap Token.event?).filterMap Event.offset?).Pairwise _
  rw [List.filterMap_filterMap]
  exact pairwise_lt_filterMap _ Token.offset_of_event? _ (pairwise_offset_tokenize text)

/-- A token that is made text keeps its offset. -/
theorem map_offset_repair (doomed : List Nat) (ts : List Token) :
    (repair doomed ts).map (·.offset) = ts.map (·.offset) := by
  rw [repair, List.map_map]
  apply List.map_congr_left
  intro t _
  simp only [Function.comp]
  split <;> rfl

/-- The offsets that a walk through the tree of a text meets increase. -/
theorem pairwise_offset_walkAll (text : String) :
    ((Node.walkAll (Tree.ofTokens (tokenize text).tokens).nodes).filterMap
      Waypoint.offset?).Pairwise (· < ·) := by
  rw [walkAll_eq_repair _ (nodup_offset_tokenize text), List.filterMap_map]
  apply pairwise_lt_filterMap _ Token.offset_of_waypoint
  rw [map_offset_repair]
  exact pairwise_offset_tokenize text

/-! ## The offsets of a template -/

/-- A name of the outline is that of a placeholder at its offset. -/
theorem exists_token_of_mem_events (text name : String) (offset : Nat)
    (h : .placeholder name offset ∈ (Outline.ofText text).events) :
    ∃ t ∈ (tokenize text).tokens, t.shape = .placeholder ∧ t.value = name ∧ t.offset = offset := by
  obtain ⟨t, ht, he⟩ := List.mem_filterMap.1 h
  unfold Token.event? at he
  split at he
  · next hshape =>
    cases he
    exact ⟨t, ht, hshape, rfl, rfl⟩
  · split at he <;> cases he
  · cases he

/-- A variable of the tree is a placeholder at its offset. -/
theorem exists_token_of_occurs (source name : String) (offset : Nat)
    (h : Node.Occurs (.placeholder name offset) (parse source).nodes) :
    ∃ t ∈ (tokenize (parse source).body).tokens,
      t.shape = .placeholder ∧ t.value = name ∧ t.offset = offset := by
  obtain ⟨t, ht, hw | hw⟩ := mem_walkAll_parse source _ (h.walk_subset List.mem_cons_self)
  · refine ⟨t, ht, ?_⟩
    unfold Token.waypoint at hw
    split at hw
    · cases hw
    · cases hw
    · split at hw
      · next hshape =>
        cases hw
        exact ⟨hshape, rfl, rfl⟩
      · cases hw
      · cases hw
  · cases hw

/-- All offsets of a template lead to where they say. The stretch that a loop or a conditional of
the outline tells is one directive by itself, and read as the head that is described. At the offset
of a name, in the outline as well as anywhere in the block tree, stands a placeholder that holds the
name. The stretches do not overlap, and offsets increase along the outline and on a walk through the
block tree, which meets a block before what stands in it. -/
structure HasFaithfulOffsets (t : Template) : Prop where
  loops : ∀ head ∈ t.outline.loops,
    IsHeadAt t.body.toList head.start head.stop (.loop head.item head.collection)
  conditionals : ∀ head ∈ t.outline.conditionals,
    IsHeadAt t.body.toList head.start head.stop (.conditional head.expression)
  events : ∀ name offset, .placeholder name offset ∈ t.outline.events →
    NamedAt t.body.toList offset name
  nodes : ∀ name offset, Node.Occurs (.placeholder name offset) t.nodes →
    NamedAt t.body.toList offset name
  apart : t.outline.spans.Pairwise Span.Apart
  increase_events : (t.outline.events.filterMap Event.offset?).Pairwise (· < ·)
  increase_nodes : ((Node.walkAll t.nodes).filterMap Waypoint.offset?).Pairwise (· < ·)

/-- **Offsets are faithful**, in every template. -/
theorem offsets_faithful (source : String) : (parse source).HasFaithfulOffsets where
  loops := by
    intro head hhead
    obtain ⟨token, htoken, h⟩ := List.mem_filterMap.1 hhead
    obtain ⟨hd, hstart, hstop⟩ := token.eq_of_loopHead? head h
    rw [hstart, hstop]
    exact isHeadAt_of_mem_tokenize (parse source).body token htoken _ hd
  conditionals := by
    intro head hhead
    obtain ⟨token, htoken, h⟩ := List.mem_filterMap.1 hhead
    obtain ⟨hd, hstart, hstop⟩ := token.eq_of_conditionalHead? head h
    rw [hstart, hstop]
    exact isHeadAt_of_mem_tokenize (parse source).body token htoken _ hd
  events := by
    intro name offset h
    obtain ⟨token, htoken, hshape, rfl, rfl⟩ :=
      exists_token_of_mem_events (parse source).body name offset h
    exact namedAt_of_mem_tokenize (parse source).body token htoken hshape
  nodes := by
    intro name offset h
    obtain ⟨token, htoken, hshape, rfl, rfl⟩ := exists_token_of_occurs source name offset h
    exact namedAt_of_mem_tokenize (parse source).body token htoken hshape
  apart := pairwise_apart_spans (parse source).body
  increase_events := pairwise_offset_events (parse source).body
  increase_nodes := pairwise_offset_walkAll (parse source).body

/-- A placeholder between a loop and a conditional that nothing closes, so that its node stands in
no block. The marker of the loop has the longer form. -/
theorem offsets_faithful_unclosed :
    let source := "\x7b\x7b% for x in xs %\x7d\x7d\x7b\x7b x \x7d\x7d\x7b% if x %\x7d"
    let t := parse source
    let s := t.body.toList
    ⟨"x", "xs", 0, 19⟩ ∈ t.outline.loops ∧ IsHeadAt s 0 19 (.loop "x" "xs") ∧
      ⟨"x", 26, 36⟩ ∈ t.outline.conditionals ∧ IsHeadAt s 26 36 (.conditional "x") ∧
      Node.Occurs (.placeholder "x" 19) t.nodes ∧ NamedAt s 19 "x" := by
  intro source t s
  have hblock : Text.cut? Defaults.openingMarker source.toList = none := by decide +kernel
  have htokens : (tokenize source).tokens = [
      ⟨⟨.directive, "for x in xs", "\x7b\x7b% for x in xs %\x7d\x7d"⟩, ⟨0, 1, 1⟩⟩,
      ⟨⟨.placeholder, "x", "\x7b\x7b x \x7d\x7d"⟩, ⟨19, 1, 20⟩⟩,
      ⟨⟨.directive, "if x", "\x7b% if x %\x7d"⟩, ⟨26, 1, 27⟩⟩] := by
    decide +kernel
  have hfor : Directive.classify "for x in xs" = some (.opening (.loop "x" "xs")) := by decide
  have hif : Directive.classify "if x" = some (.opening (.conditional "x")) := by decide
  have hloops : t.outline.loops = [⟨"x", "xs", 0, 19⟩] := by
    show (parse source).outline.loops = _
    rw [parse_of_cut?_eq_none _ hblock, Outline.ofText, htokens]
    simp only [Outline.ofTokens, List.filterMap_cons, List.filterMap_nil, Token.loopHead?,
      Token.directive?, hfor, hif]
    rfl
  have hconditionals : t.outline.conditionals = [⟨"x", 26, 36⟩] := by
    show (parse source).outline.conditionals = _
    rw [parse_of_cut?_eq_none _ hblock, Outline.ofText, htokens]
    simp only [Outline.ofTokens, List.filterMap_cons, List.filterMap_nil, Token.conditionalHead?,
      Token.directive?, hfor, hif]
    rfl
  have hnodes : t.nodes = [.text "\x7b\x7b% for x in xs %\x7d\x7d", .placeholder "x" 19,
      .text "\x7b% if x %\x7d"] := by
    show (parse source).nodes = _
    rw [parse_of_cut?_eq_none _ hblock, htokens, Tree.ofTokens]
    simp only [List.foldl_cons, List.foldl_nil, Builder.read, hfor, hif]
    rfl
  have hoccurs : Node.Occurs (.placeholder "x" 19) t.nodes := by
    rw [hnodes]
    exact .later _ _ (.here _)
  have hfaithful := offsets_faithful source
  have hloop : ⟨"x", "xs", 0, 19⟩ ∈ t.outline.loops := by simp [hloops]
  have hconditional : ⟨"x", 26, 36⟩ ∈ t.outline.conditionals := by simp [hconditionals]
  have hhead := hfaithful.loops _ hloop
  have hcondition := hfaithful.conditionals _ hconditional
  exact ⟨hloop, hhead, hconditional, hcondition, hoccurs, hfaithful.nodes "x" 19 hoccurs⟩

end Stencil.Template
