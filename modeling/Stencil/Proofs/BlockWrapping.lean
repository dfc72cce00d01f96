import Stencil.Proofs.BlockReading
import Stencil.Proofs.ConditionBlanks
import Stencil.Proofs.DirectiveReading
import Stencil.Proofs.Relocation
import Stencil.Proofs.TokenSeam

/-!
# Wrapping a template in a block

A template that stands for itself keeps its meaning when it is put into a block: between the markers
of a conditional it gives what it gives alone, or nothing, and between those of a loop it gives what
it gives alone in the scope of each element.

What stands for itself is told by the template alone (`SelfContained`): it has no marker that is not
closed, no problem of nesting, and does not end with half a marker. Then its pieces are unchanged
in the wrapped template (`pieces_append`), its tokens are read as the body of the block
(`ofTokens_block`), and their new offsets do not show (`outcomes_relocate`).

## Key results

- `outcomes_wrapped`: what a wrapped template gives is what its block gives.
- `renderText_wrapped`: the meaning of conditionals and loops around a template.
-/

namespace Stencil.Template

open Stencil.Text Stencil.Renderer

/-- The text that a template without default values gives in a scope. -/
def renderText (scope : Scope) (text : String) : Except Overlong String :=
  (renderIn scope (Tree.ofTokens (tokenize text).tokens).nodes).text

/-- The template stands for itself: nothing in it reaches over its end, and no marker of it waits
for another one outside. -/
structure SelfContained (text : String) : Prop where
  endsApart : EndsApart text.toList
  closed : ∀ t ∈ (tokenize text).tokens, t.shape ≠ .loneOpening ∧ t.shape ≠ .openEnd
  nested : (Tree.ofTokens (tokenize text).tokens).problems = []

/-- A directive with the given content around it. -/
def marker (inner : List Char) : List Char := '{' :: '%' :: (inner ++ ['%', '}'])

/-- The pieces of a template between two directives. -/
theorem pieces_wrapped (text : String) (h : SelfContained text) (first last : List Char)
    (hfirst : ¬ ['%', '}'] <:+: first) (hlast : ¬ ['%', '}'] <:+: last) :
    pieces (marker first ++ text.toList ++ marker last) =
      .directive first :: (pieces text.toList ++ [.directive last]) := by
  -- the closing directive begins with a marker, so nothing runs over the seam before it
  have hend := pieces_directive last [] hlast
  rw [pieces_nil] at hend
  have hbody := pieces_append text.toList (marker last) (allClosed_of_tokens text h.closed)
    h.endsApart rfl
  have hmarker : marker first ++ text.toList ++ marker last =
      '{' :: '%' :: (first ++ '%' :: '}' :: (text.toList ++ marker last)) := by
    simp [marker]
  rw [hmarker, pieces_directive first _ hfirst, hbody]
  exact congrArg (fun ps => Piece.directive first :: (pieces text.toList ++ ps)) hend

/-- What a template gives between the two markers of a block is what the block gives, with the nodes
of the template as its body. -/
theorem outcomes_wrapped (text : String) (h : SelfContained text) (first last : List Char)
    (head : Head) (hfirst : ¬ ['%', '}'] <:+: first) (hlast : ¬ ['%', '}'] <:+: last)
    (hopening : Directive.classify (String.ofList (trim first)) = some (.opening head))
    (hclosing : Directive.classify (String.ofList (trim last)) = some (.closing head.kind))
    (wrapped : String) (hwrapped : wrapped.toList = marker first ++ text.toList ++ marker last)
    (scope : Scope) :
    outcomes scope (Tree.ofTokens (tokenize wrapped).tokens).nodes =
      outcome scope (.block 0 (Tree.ofTokens (tokenize text).tokens).nodes head) := by
  -- all offsets are forgotten
  let f : Nat → Nat := fun _ => 0
  let opening : Token := ⟨.directive first, ⟨0, 1, 1⟩⟩
  let closing : Token := ⟨.directive last, ⟨0, 1, 1⟩⟩
  have htokens : (tokenize wrapped).tokens.map (Token.relocate f) =
      opening :: ((tokenize text).tokens.map (Token.relocate f) ++ [closing]) := by
    rw [tokenize, hwrapped, pieces_wrapped text h first last hfirst hlast, locate, locate_append,
      List.map_cons, List.map_append]
    -- the tokens of the template stand behind the opening directive
    have hmoved := map_relocate_locate f f (Place.start.advance (Piece.directive first).raw.toList)
      .start (pieces text.toList) fun n => rfl
    rw [hmoved]
    rfl
  have hnested : (Tree.ofTokens ((tokenize text).tokens.map (Token.relocate f))).problems = [] := by
    rw [ofTokens_relocate, Tree.relocate, h.nested]
    rfl
  have htree := ofTokens_block opening closing head _ hopening hclosing hnested
  rw [← htokens, ofTokens_relocate, ofTokens_relocate] at htree
  have hnodes := congrArg Tree.nodes htree
  -- what the moved tree gives is what the tree gives
  rw [← outcomes_relocate scope f, ← outcome_relocate scope f, Node.block_relocate]
  show outcomes scope (Tree.relocate f _).nodes = _
  rw [hnodes, outcomes, outcomes, Rendered.append_empty]
  rfl

/-! ## Conditionals -/

/-- The text around which a conditional is put. -/
theorem toList_if (e text : String) :
    ("\x7b% if " ++ e ++ " %\x7d" ++ text ++ "\x7b% endif %\x7d").toList =
      marker (' ' :: 'i' :: 'f' :: ' ' :: (e.toList ++ [' '])) ++ text.toList ++
        marker [' ', 'e', 'n', 'd', 'i', 'f', ' '] := by
  simp [marker]

theorem outcome_conditional_text (scope : Scope) (e : String) (body : List Node) :
    (outcome scope (.conditional e 0 body)).text = match (judgeIn scope e).1 with
      | .ok true => (outcomes scope body).text
      | .ok false => .ok ""
      | .error failure => .error failure := by
  rw [outcome]
  obtain ⟨failure | b, notes⟩ := judgeIn scope e
  · rfl
  · cases b with
    | false => rfl
    | true =>
      show (Except.map ("" ++ ·) (outcomes scope body).text) = (outcomes scope body).text
      cases (outcomes scope body).text with
      | ok s => exact congrArg Except.ok String.empty_append
      | error failure => rfl

/-- A conditional around a template gives what the template gives, if its condition holds. -/
theorem renderText_if (scope : Scope) (text : String) (h : SelfContained text) (e : String)
    (he : ¬ IsBlanks e.toList) (hmark : ¬ ['%', '}'] <:+: e.toList) :
    renderText scope ("\x7b% if " ++ e ++ " %\x7d" ++ text ++ "\x7b% endif %\x7d") =
      match (judgeIn scope e).1 with
      | .ok true => renderText scope text
      | .ok false => .ok ""
      | .error failure => .error failure := by
  -- the blanks around the condition keep its end apart from the closing mark
  have hfirst : ¬ ['%', '}'] <:+: ' ' :: 'i' :: 'f' :: ' ' :: (e.toList ++ [' ']) := fun hi =>
    hmark (infix_of_infix_concat _ _ ' ' _ (by decide)
      (infix_of_infix_append_left _ _ [' ', 'i', 'f', ' '] _ (by decide) hi))
  have hlast : Directive.classify (String.ofList (trim [' ', 'e', 'n', 'd', 'i', 'f', ' '])) =
      some (.closing .conditional) := by decide
  have houtcomes := outcomes_wrapped text h _ _ (.conditional (String.ofList (trim e.toList)))
    hfirst (by decide) (Directive.classify_conditional e.toList he) hlast _ (toList_if e text) scope
  unfold renderText
  rw [renderIn_eq_outcomes, renderIn_eq_outcomes, houtcomes, ← judgeIn_trim]
  exact outcome_conditional_text scope _ _

/-! ## Loops -/

theorem toList_for (item collection text : String) :
    ("\x7b% for " ++ item ++ " in " ++ collection ++ " %\x7d" ++ text ++
        "\x7b% endfor %\x7d").toList =
      marker (' ' :: 'f' :: 'o' :: 'r' :: ' ' ::
          (item.toList ++ ' ' :: 'i' :: 'n' :: ' ' :: (collection.toList ++ [' ']))) ++
        text.toList ++ marker [' ', 'e', 'n', 'd', 'f', 'o', 'r', ' '] := by
  simp [marker]

theorem outcome_loop_text (scope : Scope) (item collection : String) (body : List Node) :
    (outcome scope (.loop item collection 0 body)).text = match scope.lookup collection with
      | .list elements =>
        (elements.mapM fun element => (outcomes (scope.bind item element) body).text).map
          String.join
      | _ => .ok "" := by
  rw [outcome]
  cases scope.lookup collection with
  | list elements =>
    show (Rendered.join _).text = _
    rw [Rendered.text_join, List.mapM_map]
    rfl
  | _ => rfl

/-- A character that is not a word character is not in the head of a loop. -/
theorem not_mem_loop (c : Char) (item collection : List Char) (hitem : Directive.IsName item)
    (hcollection : Directive.IsName collection) (hc : isWord c = false)
    (hfixed : c ∉ [' ', 'f', 'o', 'r', 'i', 'n']) :
    c ∉ ' ' :: 'f' :: 'o' :: 'r' :: ' ' ::
      (item ++ ' ' :: 'i' :: 'n' :: ' ' :: (collection ++ [' '])) := by
  have h₁ : c ∉ item := fun hm => by simp [hitem.isWord c hm] at hc
  have h₂ : c ∉ collection := fun hm => by simp [hcollection.isWord c hm] at hc
  simp only [List.mem_cons, List.mem_append, List.not_mem_nil, or_false, not_or] at hfixed ⊢
  simp only [hfixed, h₁, h₂, not_false_iff, and_self]

/-- A loop around a template gives what the template gives for each element, in order. -/
theorem renderText_for (scope : Scope) (text : String) (h : SelfContained text)
    (item collection : String) (hitem : Directive.IsName item.toList)
    (hcollection : Directive.IsName collection.toList) :
    renderText scope ("\x7b% for " ++ item ++ " in " ++ collection ++ " %\x7d" ++ text ++
        "\x7b% endfor %\x7d") =
      match scope.lookup collection with
      | .list elements =>
        (elements.mapM fun element => renderText (scope.bind item element) text).map String.join
      | _ => .ok "" := by
  have hfirst : ¬ ['%', '}'] <:+: ' ' :: 'f' :: 'o' :: 'r' :: ' ' ::
      (item.toList ++ ' ' :: 'i' :: 'n' :: ' ' :: (collection.toList ++ [' '])) := fun hi =>
    not_mem_loop '%' _ _ hitem hcollection (by decide) (by decide)
      (hi.subset List.mem_cons_self)
  have hlast : Directive.classify
      (String.ofList (trim [' ', 'e', 'n', 'd', 'f', 'o', 'r', ' '])) =
        some (.closing .loop) := by decide
  -- the names are those of the head
  have hhead := Directive.classify_loop item.toList collection.toList hitem hcollection
  rw [String.ofList_toList, String.ofList_toList] at hhead
  have houtcomes := outcomes_wrapped text h _ _ (.loop item collection) hfirst (by decide) hhead
    hlast _ (toList_for item collection text) scope
  unfold renderText
  simp only [renderIn_eq_outcomes]
  rw [houtcomes]
  exact outcome_loop_text scope item collection _

/-- Blocks mean at the level of texts what they are meant to. A conditional around a template that
stands for itself gives the template's text if its condition holds and nothing if not; a loop around
it gives the template's text for each element of a list, with the element bound, one after another,
and nothing for what is no list. -/
theorem renderText_wrapped (text : String) (h : SelfContained text) (scope : Scope) :
    (∀ e : String, ¬ IsBlanks e.toList → ¬ ['%', '}'] <:+: e.toList →
      renderText scope ("\x7b% if " ++ e ++ " %\x7d" ++ text ++ "\x7b% endif %\x7d") =
        match (judgeIn scope e).1 with
        | .ok true => renderText scope text
        | .ok false => .ok ""
        | .error failure => .error failure) ∧
    ∀ item collection : String, Directive.IsName item.toList →
      Directive.IsName collection.toList →
      renderText scope ("\x7b% for " ++ item ++ " in " ++ collection ++ " %\x7d" ++ text ++
          "\x7b% endfor %\x7d") =
        match scope.lookup collection with
        | .list elements =>
          (elements.mapM fun element => renderText (scope.bind item element) text).map String.join
        | _ => .ok "" :=
  ⟨renderText_if scope text h, renderText_for scope text h⟩

/-- A placeholder in a conditional whose condition has a marker in it, and in a loop. -/
theorem renderText_wrapped_placeholder :
    let scope : Scope := .root (.object [("xs", .list [.text "a", .text "b"])]) []
    let text := "\x7b\x7b x \x7d\x7d;"
    SelfContained text ∧
      renderText scope
          ("\x7b% if " ++ "xs && '\x7b\x7b'" ++ " %\x7d" ++ text ++ "\x7b% endif %\x7d") =
        renderText scope text ∧
      renderText scope ("\x7b% for " ++ "x" ++ " in " ++ "xs" ++ " %\x7d" ++ text ++
          "\x7b% endfor %\x7d") = .ok "a;b;" := by
  intro scope text
  have htokens : (tokenize text).tokens =
      [⟨⟨.placeholder, "x", "\x7b\x7b x \x7d\x7d"⟩, ⟨0, 1, 1⟩⟩, ⟨⟨.run, ";", ";"⟩, ⟨7, 1, 8⟩⟩] := by
    decide +kernel
  have hends : EndsApart text.toList := by
    simp [EndsApart, text]
  have hself : SelfContained text := by
    refine ⟨hends, ?_, ?_⟩
    · rw [htokens]
      decide
    · rw [htokens]
      rfl
  obtain ⟨hif, hfor⟩ := renderText_wrapped text hself scope
  refine ⟨hself, ?_, ?_⟩
  · -- the list is not empty, and neither is the string
    have hparse : Condition.parse "xs && '\x7b\x7b'" =
        .ok (.both (.path "xs") (.literal (.text "\x7b\x7b"))) := by
      have hcondition : Condition.tokenize "xs && '\x7b\x7b'" =
          .ok ⟨[⟨.path "xs", 0⟩, ⟨.and, 3⟩, ⟨.string "\x7b\x7b", 6⟩], 10⟩ := by decide +kernel
      rw [Condition.parse, hcondition]
      rfl
    have hlookup : scope.lookup "xs" = .list [.text "a", .text "b"] := by rfl
    have hvalue : Condition.evaluate scope.lookup "xs && '\x7b\x7b'" = .ok true := by
      rw [Condition.evaluate, Condition.read_eq, hparse]
      show Except.map Value.isTruthy (do
        let l ← Except.ok (scope.lookup "xs")
        if l.isTruthy then return .bool (Value.isTruthy (.text "\x7b\x7b"))
        else return .bool false) = .ok true
      rw [hlookup]
      rfl
    have hshown := hif "xs && '\x7b\x7b'" (by simp; decide) (by simp; decide)
    rwa [judgeIn_eq_verdict, hvalue] at hshown
  · have hlookup : scope.lookup "xs" = .list [.text "a", .text "b"] := by rfl
    have ha : (scope.bind "x" (.text "a")).lookup "x" = .text "a" := by rfl
    have hb : (scope.bind "x" (.text "b")).lookup "x" = .text "b" := by rfl
    have helement : ∀ s : Scope, ∀ v, s.lookup "x" = .text v →
        renderText s text = .ok (v ++ (";" ++ "")) := by
      intro s v hv
      rw [renderText, renderIn_eq_outcomes, htokens]
      show ((Rendered.mk (Value.text? (s.lookup "x")) []).append _).text = _
      rw [hv]
      rfl
    have heach := hfor "x" "xs" ⟨by simp, by simp; decide⟩ ⟨by simp, by simp; decide⟩
    rw [hlookup] at heach
    refine heach.trans ?_
    show Except.map String.join ([Value.text "a", .text "b"].mapM fun element =>
      renderText (scope.bind "x" element) text) = _
    rw [List.mapM_cons, List.mapM_cons, List.mapM_nil, helement _ _ ha, helement _ _ hb]
    rfl

end Stencil.Template
