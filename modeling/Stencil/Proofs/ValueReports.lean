import Stencil.Command.Run
import Stencil.Proofs.PathReading
import Stencil.Proofs.RenderedTexts
import Stencil.Proofs.TemplateNames
import Stencil.Proofs.TreeReads

/-!
# Reports on values and renderings

A template is checked for missing values, and its author is warned of default values in use, before
anything is rendered. Both reports look at the data and the defaults alone, while a rendering looks
names up in scopes. They agree: a name that begins with no item of a loop is looked up behind all
bindings, so it has the same text in every scope that the loops can make (`Scope.Reached`), and the
reports tell that text.

A check breaks off on an integer of too many digits; then some name has no text at all.

## Key results

- `lookupText_of_reached`: a name that begins with no item has one text in all reached scopes.
- `hasText_or_fallsBack`: what is checked of a name is whether its text is blank.
- `mem_missing_iff`: the missing names are those with a blank text.
- `reached_of_shows`: the scopes of a rendering are reached by binding items of its loops.
- `infix_of_shows`: the text of a placeholder that is rendered is part of the whole.
- `reports_eq_lookups`: the reports, by what is looked up and by what is rendered.
-/

namespace Stencil

/-! ## Reached scopes -/

namespace Scope

/-- The scopes that come from one by binding items, in any order and with any elements. -/
inductive Reached (items : List String) (start : Scope) : Scope → Prop
  | start : Reached items start start
  | bind (s : Scope) (item : String) (element : Value) :
      Reached items start s → item ∈ items → Reached items start (s.bind item element)

/-- The scope with its data and its bindings, and no defaults. -/
def withoutDefaults (s : Scope) : Scope := ⟨s.data, [], s.bindings⟩

/-- Binding changes neither the data nor the defaults, and no name that is no item. -/
theorem eq_of_reached (items : List String) (start s : Scope) (h : Reached items start s) :
    s.data = start.data ∧ s.defaults = start.defaults ∧
      ∀ name ∉ items, s.bindings.get? name = start.bindings.get? name := by
  induction h with
  | start => exact ⟨rfl, rfl, fun name _ => rfl⟩
  | bind s item element _ hitem ih =>
    obtain ⟨hdata, hdefaults, hbindings⟩ := ih
    refine ⟨hdata, hdefaults, fun name hname => ?_⟩
    have hne : name ≠ item := by
      rintro rfl
      exact hname hitem
    exact (Entries.get?_put_of_ne s.bindings element hne).trans (hbindings name hname)

/-- A path that begins with no item has one text in all reached scopes, with the defaults and
without them. -/
theorem lookupText_of_reached (items : List String) (data : Value) (defaults : Entries String)
    (s : Scope) (h : Reached items (root data defaults) s) (path : String)
    (hpath : firstSegment path ∉ items) :
    s.lookupText path = (root data defaults).lookupText path ∧
      s.withoutDefaults.lookupText path = (root data []).lookupText path := by
  obtain ⟨hdata, hdefaults, hbindings⟩ := eq_of_reached items _ s h
  have hfree : s.bindings.get? (firstSegment path) = none := hbindings _ hpath
  unfold lookupText lookup withoutDefaults
  rw [hfree]
  unfold lookupOutside
  rw [hdata, hdefaults]
  exact ⟨rfl, rfl⟩

end Scope

namespace Template

/-! ## Single names -/

section

variable (t : Template) (data : Value) (name : String)

/-- A name that leads nowhere in the data has its default, or is blank. -/
theorem lookupText_of_undefined (h : data.resolve name = .undefined) :
    (Scope.root data t.defaults).lookupText name = .ok (t.defaultText name) := by
  show Value.text? ((Scope.root data t.defaults).lookupOutside name) = _
  rw [Scope.lookupOutside, Scope.root, h, defaultText]
  cases t.defaults.get? name <;> rfl

/-- What the data have is not looked for in the defaults. -/
theorem lookupText_of_ne_undefined (defaults : Entries String)
    (h : data.resolve name ≠ .undefined) :
    (Scope.root data defaults).lookupText name = (data.resolve name).text? := by
  show Value.text? ((Scope.root data defaults).lookupOutside name) = _
  rw [Scope.lookupOutside, Scope.root]
  dsimp only
  split
  · next hundefined => exact absurd hundefined h
  · rfl

theorem fallsBack_of_undefined (h : data.resolve name = .undefined) :
    t.fallsBack data name = (t.defaultText name != "") := by
  rw [fallsBack, h]
  rfl

theorem fallsBack_of_ne_undefined (h : data.resolve name ≠ .undefined) :
    t.fallsBack data name = false := by
  rw [fallsBack, Bool.and_eq_false_iff]
  left
  split
  · next hundefined => exact absurd hundefined h
  · rfl

/-- What is checked of a name is whether its text is blank. -/
theorem hasText_or_fallsBack :
    (hasText (data.resolve name)).map (· || t.fallsBack data name) =
      ((Scope.root data t.defaults).lookupText name).map (· != "") := by
  by_cases h : data.resolve name = .undefined
  · rw [lookupText_of_undefined t data name h, fallsBack_of_undefined t data name h, h]
    rfl
  · rw [lookupText_of_ne_undefined data name _ h, fallsBack_of_ne_undefined t data name h, hasText]
    cases (data.resolve name).text? with
    | ok text => exact congrArg Except.ok (Bool.or_false _)
    | error e => rfl

/-- A name falls back on its default exactly if it has another text without the defaults. -/
theorem fallsBack_iff :
    t.fallsBack data name = true ↔
      (Scope.root data t.defaults).lookupText name ≠ (Scope.root data []).lookupText name := by
  by_cases h : data.resolve name = .undefined
  · have hbare : (Scope.root data []).lookupText name = .ok "" := by
      show Value.text? ((Scope.root data []).lookupOutside name) = _
      rw [Scope.lookupOutside, Scope.root, h]
      rfl
    rw [fallsBack_of_undefined t data name h, lookupText_of_undefined t data name h, hbare,
      bne_iff_ne, ne_eq, ne_eq, Except.ok.injEq]
  · rw [fallsBack_of_ne_undefined t data name h, lookupText_of_ne_undefined data name _ h,
      lookupText_of_ne_undefined data name _ h]
    simp

/-- A name that falls back on its default has that text, and it is not blank. -/
theorem lookupText_of_fallsBack (h : t.fallsBack data name = true) :
    ∃ text, t.defaults.get? name = some text ∧ text ≠ "" ∧
      (Scope.root data t.defaults).lookupText name = .ok text := by
  by_cases hundefined : data.resolve name = .undefined
  · rw [fallsBack_of_undefined t data name hundefined, bne_iff_ne] at h
    rw [lookupText_of_undefined t data name hundefined]
    unfold defaultText at h ⊢
    cases hget : t.defaults.get? name with
    | none =>
      rw [hget] at h
      exact absurd rfl h
    | some text =>
      rw [hget] at h
      exact ⟨text, rfl, h, rfl⟩
  · rw [fallsBack_of_ne_undefined t data name hundefined] at h
    cases h

end

/-! ## Checks -/

section

variable (t : Template) (data : Value)

/-- A check looks up the text of a name, and the name is missing if that is blank. -/
theorem missingAmong_cons (name : String) (rest : List String) :
    t.missingAmong data (name :: rest) = do
      let text ← (Scope.root data t.defaults).lookupText name
      let missing ← t.missingAmong data rest
      return if text != "" then missing else name :: missing :=
  calc t.missingAmong data (name :: rest)
      = (hasText (data.resolve name)).map (· || t.fallsBack data name) >>= fun present =>
          t.missingAmong data rest >>= fun missing =>
            pure (if present then missing else name :: missing) := by
        rw [missingAmong]
        cases hasText (data.resolve name) <;> rfl
    _ = ((Scope.root data t.defaults).lookupText name).map (· != "") >>= fun present =>
          t.missingAmong data rest >>= fun missing =>
            pure (if present then missing else name :: missing) := by
        rw [hasText_or_fallsBack]
    _ = _ := by cases (Scope.root data t.defaults).lookupText name <;> rfl

/-- If all names have texts, the check does not break off, and the missing names are those with a
blank text. -/
theorem missingAmong_of_lookupText (text : String → String) (names : List String)
    (h : ∀ name ∈ names, (Scope.root data t.defaults).lookupText name = .ok (text name)) :
    t.missingAmong data names = .ok (names.filter fun name => text name == "") := by
  induction names with
  | nil => rfl
  | cons name rest ih =>
    rw [List.forall_mem_cons] at h
    rw [missingAmong_cons, h.1, ih h.2]
    by_cases hblank : text name = ""
    · simp [hblank, bind, Except.bind, pure, Except.pure]
    · simp [hblank, bind, Except.bind, pure, Except.pure]

/-- A check that does not break off has the texts of a name and of the others. -/
theorem exists_of_missingAmong_cons (name : String) (rest missing : List String)
    (h : t.missingAmong data (name :: rest) = .ok missing) :
    ∃ text others, (Scope.root data t.defaults).lookupText name = .ok text ∧
      t.missingAmong data rest = .ok others ∧
      missing = if text != "" then others else name :: others := by
  rw [missingAmong_cons] at h
  cases htext : (Scope.root data t.defaults).lookupText name with
  | error e =>
    rw [htext] at h
    cases h
  | ok text =>
    cases hothers : t.missingAmong data rest with
    | error e =>
      rw [htext, hothers] at h
      cases h
    | ok others =>
      rw [htext, hothers] at h
      exact ⟨text, others, rfl, rfl, (Except.ok.inj h).symm⟩

/-- The missing names are those with a blank text. -/
theorem mem_missing_iff (names missing : List String)
    (h : t.missingAmong data names = .ok missing) (name : String) :
    name ∈ missing ↔
      name ∈ names ∧ (Scope.root data t.defaults).lookupText name = .ok "" := by
  induction names generalizing missing with
  | nil =>
    cases h
    simp
  | cons first rest ih =>
    obtain ⟨text, others, htext, hothers, rfl⟩ := exists_of_missingAmong_cons t data _ _ _ h
    have hmem := ih others hothers
    by_cases hname : name = first
    · subst hname
      by_cases hblank : text = ""
      · simp [hblank, htext]
      · simp [hblank, htext, hmem]
    · by_cases hblank : text = ""
      · simp [hblank, hname, hmem]
      · simp [hblank, hname, hmem]

/-- All names of a check that does not break off have texts. -/
theorem exists_text_of_missingAmong (names missing : List String)
    (h : t.missingAmong data names = .ok missing) :
    ∀ name ∈ names, ∃ text, (Scope.root data t.defaults).lookupText name = .ok text := by
  induction names generalizing missing with
  | nil => simp
  | cons first rest ih =>
    obtain ⟨text, others, htext, hothers, -⟩ := exists_of_missingAmong_cons t data _ _ _ h
    intro name hname
    rcases List.mem_cons.1 hname with rfl | hname
    · exact ⟨text, htext⟩
    · exact ih others hothers name hname

/-- A check that breaks off has met a name without a text. -/
theorem exists_overlong_of_missingAmong (names : List String) (e : Overlong)
    (h : t.missingAmong data names = .error e) :
    ∃ name ∈ names, (Scope.root data t.defaults).lookupText name = .error e := by
  induction names with
  | nil => cases h
  | cons first rest ih =>
    rw [missingAmong_cons] at h
    cases htext : (Scope.root data t.defaults).lookupText first with
    | error e' =>
      cases e
      cases e'
      exact ⟨first, List.mem_cons_self, htext⟩
    | ok text =>
      cases hothers : t.missingAmong data rest with
      | ok others =>
        rw [htext, hothers] at h
        cases h
      | error e' =>
        cases e
        cases e'
        obtain ⟨name, hname, hoverlong⟩ := ih hothers
        exact ⟨name, List.mem_cons_of_mem first hname, hoverlong⟩

/-- A command that requires all values goes on only if no name is missing. -/
theorem missingNames_of_requireValues (p q : Command.Progress)
    (h : (Command.requireValues true t data).run p = .ok () q) :
    t.missingNames data = .ok [] := by
  cases hmissing : t.missingNames data with
  | error e =>
    simp only [Command.requireValues, hmissing] at h
    cases h
  | ok missing =>
    cases missing with
    | nil => rfl
    | cons first rest =>
      simp only [Command.requireValues, hmissing] at h
      cases h

end

/-! ## Rendered placeholders -/

/-- A placeholder with the name is rendered in the shown scope, when the nodes are rendered in the
given one: it stands among them, in the body of a loop for one of its elements, or in the body of a
conditional that holds. -/
inductive Shows (name : String) (shown : Scope) : Scope → List Node → Prop
  | placeholder (offset : Nat) (rest : List Node) :
      Shows name shown shown (.placeholder name offset :: rest)
  | later (scope : Scope) (node : Node) (rest : List Node) :
      Shows name shown scope rest → Shows name shown scope (node :: rest)
  | loop (scope : Scope) (item collection : String) (offset : Nat) (body rest : List Node)
      (elements : List Value) (element : Value) : scope.lookup collection = .list elements →
      element ∈ elements → Shows name shown (scope.bind item element) body →
      Shows name shown scope (.loop item collection offset body :: rest)
  | conditional (scope : Scope) (expression : String) (offset : Nat) (body rest : List Node)
      (notes : List Note) : judgeIn scope expression = (.ok true, notes) →
      Shows name shown scope body →
      Shows name shown scope (.conditional expression offset body :: rest)

/-- The scopes of a rendering are reached by binding items of its loops. -/
theorem reached_of_shows (items : List String) (start : Scope) (name : String)
    (shown scope : Scope) (nodes : List Node) (h : Shows name shown scope nodes)
    (hitems : Node.boundItems nodes ⊆ items) (hscope : Scope.Reached items start scope) :
    Scope.Reached items start shown := by
  induction h with
  | placeholder offset rest => exact hscope
  | later scope node rest _ ih =>
    rw [Node.boundItems_cons, List.append_subset] at hitems
    exact ih hitems.2 hscope
  | loop scope item collection offset body rest elements element _ _ _ ih =>
    rw [Node.boundItems_cons, List.append_subset, Node.boundItems_loop, List.cons_subset] at hitems
    obtain ⟨⟨hitem, hbody⟩, -⟩ := hitems
    exact ih hbody (.bind scope item element hscope hitem)
  | conditional scope expression offset body rest notes _ _ ih =>
    rw [Node.boundItems_cons, List.append_subset, Node.boundItems_conditional] at hitems
    exact ih hitems.1 hscope

/-- The text of a placeholder that is rendered is part of the whole. -/
theorem infix_of_shows (name : String) (shown scope : Scope) (nodes : List Node)
    (h : Shows name shown scope nodes) (whole : String)
    (hwhole : (Renderer.outcomes scope nodes).text = .ok whole) :
    ∃ text, shown.lookupText name = .ok text ∧ text.toList <:+: whole.toList := by
  induction h generalizing whole with
  | placeholder offset rest =>
    obtain ⟨s, t, hs, -, rfl⟩ := Rendered.exists_of_text_append _ _ whole hwhole
    rw [String.toList_append]
    exact ⟨s, hs, (List.prefix_append _ _).isInfix⟩
  | later scope node rest _ ih =>
    obtain ⟨s, t, -, ht, rfl⟩ := Rendered.exists_of_text_append _ _ whole hwhole
    obtain ⟨text, htext, hin⟩ := ih t ht
    rw [String.toList_append]
    exact ⟨text, htext, hin.trans (List.suffix_append _ _).isInfix⟩
  | loop scope item collection offset body rest elements element hcollection helement _ ih =>
    obtain ⟨s, t, hs, -, rfl⟩ := Rendered.exists_of_text_append _ _ whole hwhole
    rw [Renderer.outcome, hcollection] at hs
    -- the turn of the loop for this element
    obtain ⟨turn, hturn, hturnpart⟩ :=
      Rendered.infix_of_text_join _ _ (List.mem_map_of_mem helement) s hs
    obtain ⟨text, htext, hin⟩ := ih turn hturn
    rw [String.toList_append]
    exact ⟨text, htext, (hin.trans hturnpart).trans (List.prefix_append _ _).isInfix⟩
  | conditional scope expression offset body rest notes hjudge _ ih =>
    obtain ⟨s, t, hs, -, rfl⟩ := Rendered.exists_of_text_append _ _ whole hwhole
    rw [Renderer.outcome, hjudge] at hs
    obtain ⟨-, u, -, hu, rfl⟩ := Rendered.exists_of_text_append _ _ s hs
    obtain ⟨text, htext, hin⟩ := ih u hu
    rw [String.toList_append, String.toList_append]
    exact ⟨text, htext, (hin.trans (List.suffix_append _ _).isInfix).trans
      (List.prefix_append _ _).isInfix⟩

/-! ## The reports -/

theorem firstSegment_not_mem_items (t : Template) (name : String) (h : name ∈ t.topLevelNames) :
    firstSegment name ∉ t.outline.items :=
  ((mem_topLevelNames_iff t name).1 h).2

/-- The reports on the values of a template agree with its rendering, with its defaults or without
them. In every scope that its loops can make, a top-level name has a text, which is blank exactly
if the name is reported as missing; a report that breaks off does so because some name has no text
in any of them. A name is reported as defaulted exactly if its text would be another one without
the defaults, and then it is the text of its default and not blank. So if all values are required
and the command goes on, each top-level placeholder that is rendered, at any depth of loops, adds a
text that is not blank. -/
theorem reports_eq_lookups (source : String) (keep : Bool) (data : Entries Value) :
    let t := (parse source).withDefaults keep
    let root := Scope.root (.object data) t.defaults
    (match t.missingNames (.object data) with
      | .ok missing => ∀ name ∈ t.topLevelNames, ∀ s, Scope.Reached t.outline.items root s →
          ∃ text, s.lookupText name = .ok text ∧ (text = "" ↔ name ∈ missing)
      | .error e => ∃ name ∈ t.topLevelNames, ∀ s, Scope.Reached t.outline.items root s →
          s.lookupText name = .error e) ∧
      (∀ name ∈ t.topLevelNames, ∀ s, Scope.Reached t.outline.items root s →
        (name ∈ t.defaultedNames (.object data) ↔
          s.lookupText name ≠ s.withoutDefaults.lookupText name) ∧
        (name ∈ t.defaultedNames (.object data) → ∃ text, t.defaults.get? name = some text ∧
          text ≠ "" ∧ s.lookupText name = .ok text)) ∧
      ∀ p q, (Command.requireValues true t (.object data)).run p = .ok () q →
        ∀ name ∈ t.topLevelNames, ∀ shown, Shows name shown root t.nodes →
          ∃ text, shown.lookupText name = .ok text ∧ text ≠ "" ∧
            ∀ whole, (t.render true (.object data)).text = .ok whole →
              text.toList <:+: whole.toList := by
  intro t root
  -- the text of a top-level name is the one outside all loops
  have hlookup : ∀ name ∈ t.topLevelNames, ∀ s, Scope.Reached t.outline.items root s →
      s.lookupText name = root.lookupText name ∧
        s.withoutDefaults.lookupText name = (Scope.root (.object data) []).lookupText name :=
    fun name hname s hs => Scope.lookupText_of_reached _ _ _ s hs name
      (firstSegment_not_mem_items t name hname)
  have hmissing : ∀ missing, t.missingNames (.object data) = .ok missing →
      ∀ name ∈ t.topLevelNames, ∃ text, root.lookupText name = .ok text ∧
        (text = "" ↔ name ∈ missing) := by
    intro missing h name hname
    obtain ⟨text, htext⟩ := exists_text_of_missingAmong t _ _ missing h name hname
    refine ⟨text, htext, ?_⟩
    rw [mem_missing_iff t _ _ missing h name, htext, Except.ok.injEq]
    exact (and_iff_right hname).symm
  refine ⟨?_, ?_, ?_⟩
  · cases h : t.missingNames (.object data) with
    | ok missing =>
      intro name hname s hs
      rw [(hlookup name hname s hs).1]
      exact hmissing missing h name hname
    | error e =>
      obtain ⟨name, hname, herror⟩ := exists_overlong_of_missingAmong t _ _ e h
      exact ⟨name, hname, fun s hs => (hlookup name hname s hs).1.trans herror⟩
  · intro name hname s hs
    obtain ⟨htext, hbare⟩ := hlookup name hname s hs
    rw [htext, hbare, ← fallsBack_iff, defaultedNames, List.mem_filter]
    exact ⟨and_iff_right hname, fun h => lookupText_of_fallsBack t _ name h.2⟩
  · intro p q hrun name hname shown hshows
    have hnone := missingNames_of_requireValues t _ p q hrun
    obtain ⟨text, htext, hblank⟩ := hmissing [] hnone name hname
    have hreached := reached_of_shows t.outline.items root name shown root t.nodes hshows
      (fun item hitem => mem_items_of_mem_boundItems source item hitem) .start
    rw [(hlookup name hname shown hreached).1]
    refine ⟨text, htext, fun h => List.not_mem_nil (hblank.1 h), fun whole hwhole => ?_⟩
    obtain ⟨part, hpart, hin⟩ := infix_of_shows name shown root t.nodes hshows whole
      ((congrArg Rendered.text (renderIn_eq_outcomes root t.nodes)).symm.trans hwhole)
    rw [(hlookup name hname shown hreached).1, htext] at hpart
    rwa [Except.ok.inj hpart]

/-- A default and a value of the data, both in a loop. -/
theorem reports_eq_lookups_required :
    let body := "\x7b%for x in a%\x7d\x7b\x7bh\x7d\x7d\x7b\x7bd\x7d\x7d\x7b%endfor%\x7d"
    let source := "\x7b% defaults %\x7dh:1\x7b% enddefaults %\x7d" ++ body
    let t := (parse source).withDefaults true
    let data : Entries Value := [("a", .list [.null, .int 0]), ("d", .bool false)]
    let root := Scope.root (.object data) t.defaults
    let shown := root.bind "x" (.int 0)
    let start : Command.Progress := ⟨⟨⟨"/", []⟩, [], []⟩, "", []⟩
    t.body = body ∧ t.defaults = [("h", "1")] ∧ t.topLevelNames = ["h", "d"] ∧
      (Command.requireValues true t (.object data)).run start = .ok () start ∧
      Shows "h" shown root t.nodes ∧ "h" ∈ t.defaultedNames (.object data) ∧
      shown.lookupText "h" ≠ shown.withoutDefaults.lookupText "h" ∧
      ∃ text, shown.lookupText "h" = .ok text ∧ text ≠ "" ∧
        ∀ whole, (t.render true (.object data)).text = .ok whole →
          text.toList <:+: whole.toList := by
  intro body source t data root shown start
  have hextract : Defaults.extract source = ([("h", "1")], body) := by
    rw [Defaults.extract, String.toList_append]
    decide +kernel
  have htokens : (tokenize body).tokens = [
      ⟨⟨.directive, "for x in a", "\x7b%for x in a%\x7d"⟩, ⟨0, 1, 1⟩⟩,
      ⟨⟨.placeholder, "h", "\x7b\x7bh\x7d\x7d"⟩, ⟨14, 1, 15⟩⟩,
      ⟨⟨.placeholder, "d", "\x7b\x7bd\x7d\x7d"⟩, ⟨19, 1, 20⟩⟩,
      ⟨⟨.directive, "endfor", "\x7b%endfor%\x7d"⟩, ⟨24, 1, 25⟩⟩] := by decide +kernel
  have hfor : Directive.classify "for x in a" = some (.opening (.loop "x" "a")) := by decide
  have hendfor : Directive.classify "endfor" = some (.closing .loop) := by decide
  have hparse := parse_of_extract source body _ hextract
  have houtline : t.outline.names = ["h", "d"] ∧ t.outline.items = ["x"] := by
    show (parse source).outline.names = _ ∧ (parse source).outline.items = _
    rw [hparse, Outline.ofText, htokens]
    simp only [Outline.ofTokens, Outline.items, List.filterMap_cons, List.filterMap_nil,
      Token.placeholderName?, Token.loopHead?, Token.directive?, hfor, hendfor]
    exact ⟨by decide, rfl⟩
  have hnodes : t.nodes = [.loop "x" "a" 0 [.placeholder "h" 14, .placeholder "d" 19]] := by
    show (parse source).nodes = _
    rw [hparse, htokens, Tree.ofTokens]
    simp only [List.foldl_cons, List.foldl_nil, Builder.read, hfor, hendfor]
    rfl
  have hdefaults : t.defaults = [("h", "1")] := congrArg Template.defaults hparse
  have htop : t.topLevelNames = ["h", "d"] := by
    rw [topLevelNames, houtline.1, houtline.2]
    decide
  have hmissing : t.missingNames (.object data) = .ok [] := by
    rw [missingNames, htop]
    simp only [missingAmong, fallsBack, defaultText, hdefaults]
    rfl
  have hrun : (Command.requireValues true t (.object data)).run start = .ok () start := by
    simp only [Command.requireValues, hmissing]
    rfl
  have hdefaulted : "h" ∈ t.defaultedNames (.object data) := by
    rw [defaultedNames, htop, List.mem_filter]
    simp only [fallsBack, defaultText, hdefaults]
    decide
  have hcollection : root.lookup "a" = .list [.null, .int 0] := rfl
  have hshows : Shows "h" shown root t.nodes := by
    rw [hnodes]
    exact .loop root "x" "a" 0 _ [] _ (.int 0) hcollection (by simp) (.placeholder 14 _)
  have hname : "h" ∈ t.topLevelNames := by
    rw [htop]
    exact List.mem_cons_self
  have hitem : "x" ∈ t.outline.items := by
    rw [houtline.2]
    exact List.mem_cons_self
  obtain ⟨-, hreports, hrequired⟩ := reports_eq_lookups source true data
  refine ⟨congrArg Template.body hparse, hdefaults, htop, hrun, hshows, hdefaulted, ?_, ?_⟩
  · exact (hreports "h" hname shown (.bind root "x" (.int 0) .start hitem)).1.1 hdefaulted
  · exact hrequired start start hrun "h" hname shown hshows

end Template

end Stencil
