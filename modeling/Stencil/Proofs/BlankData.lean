import Stencil.Proofs.DirectiveReading
import Stencil.Proofs.DistinctNames
import Stencil.Proofs.PathWriting
import Stencil.Proofs.TemplateNames
import Stencil.Proofs.ValueReports

/-!
# The blank data

The data to begin with are written in two passes. The first one writes the defaults along the
top-level names. None of them is lost if no name goes on from where another one ends. The second
pass adds a list for each collection that is not there, and so changes nothing that a name reads.

The list of a collection holds one item for the first loop over it. Its fields are the paths that
the template reads behind the name of that loop's item, each entered under its whole text. So a
path of one segment reads a blank, while one of several leads nowhere until it has been filled in,
and a path that only a later loop over the collection reads leads nowhere either.

## Key results

- `get?_foldl_addCollection`: a collection has the item of the first loop over it.
- `resolve_foldl_addCollection`: what leads somewhere is not changed by adding collections.
- `resolve_blankItem`: what a path reads in a blank item.
- `blankData_holds_defaults`: the blank data have all defaults.
- `blankData_lists_item`: the blank data have an item for each loop.
-/

namespace Stencil.Template

open Stencil.Text

/-! ## Collections -/

section

variable (t : Template) (data : Entries Value)

theorem get?_addCollection (head : LoopHead) (name : String) :
    (t.addCollection data head).get? name = (data.get? name).or
      (if head.collection = name then some (.list [t.blankItem head.item]) else none) := by
  unfold addCollection
  by_cases hname : head.collection = name
  · subst hname
    cases hget : data.get? head.collection with
    | some value => simp [hget]
    | none => simp
  · cases hget : data.get? head.collection with
    | some value => simp [hname]
    | none => simp [hname, Entries.get?_put_of_ne data _ (Ne.symm hname)]

/-- A collection has the item of the first loop over it, unless it was there before all loops. -/
theorem get?_foldl_addCollection (heads : List LoopHead) (name : String) :
    Entries.get? (heads.foldl t.addCollection data) name = (data.get? name).or
      ((heads.find? (·.collection = name)).map fun head => .list [t.blankItem head.item]) := by
  induction heads generalizing data with
  | nil => simp
  | cons head heads ih =>
    rw [List.foldl_cons, ih, get?_addCollection, Option.or_assoc]
    by_cases hname : head.collection = name
    · simp [hname]
    · simp [hname]

/-- A path that leads somewhere is not changed by adding collections. -/
theorem resolve_foldl_addCollection (heads : List LoopHead) (path : String)
    (h : (Value.object data).resolve path ≠ .undefined) :
    (Value.object (heads.foldl t.addCollection data)).resolve path =
      (Value.object data).resolve path := by
  rw [Value.resolve_eq] at h
  rw [Value.resolve_eq, Value.resolve_eq]
  dsimp only [Value.field?] at h ⊢
  rw [get?_foldl_addCollection]
  cases hget : data.get? (firstSegment path) with
  | some value => rfl
  | none =>
    rw [hget] at h
    exact absurd rfl h

end

/-! ## Items -/

/-- The fields of a blank item are blank. -/
theorem field?_blankItem (t : Template) (item name : String) :
    (t.blankItem item).field? name =
      if name ∈ t.fieldsOf item then some (.text "") else none := by
  have hnodup :
      (Entries.keys ((t.fieldsOf item).map fun field => (field, Value.text ""))).Nodup := by
    rw [Entries.keys, List.map_map, Function.comp_def, List.map_id']
    exact nodup_distinct _
  rw [blankItem, Entries.ofPairs_of_nodup _ hnodup]
  exact Entries.get?_map_const _ _ name

/-- In a blank item only names are read. -/
theorem resolve_blankItem (t : Template) (item path : String) :
    (t.blankItem item).resolve path =
      if '.' ∉ path.toList ∧ path ∈ t.fieldsOf item then .text "" else .undefined := by
  by_cases hdot : '.' ∈ path.toList
  · have hlater := laterSegments_ne_nil path hdot
    rw [Value.resolve_eq, field?_blankItem]
    by_cases hfirst : firstSegment path ∈ t.fieldsOf item
    · simp [hdot, hfirst, Value.follow_text "" _ hlater]
    · simp [hdot, hfirst]
  · rw [Value.resolve_of_not_mem _ path hdot, field?_blankItem]
    by_cases hfield : path ∈ t.fieldsOf item
    · simp [hdot, hfield]
    · simp [hfield]

/-! ## Defaults -/

/-- The top-level names with their defaults as values. -/
def namedDefaults (t : Template) : List (String × Value) :=
  t.topLevelNames.map fun name => (name, .text (t.defaultText name))

/-- The blank data are the named defaults, written one after another, with the collections. -/
theorem blankData_eq (t : Template) :
    t.blankData = t.outline.loops.foldl t.addCollection
      (t.namedDefaults.foldl (fun data item => Value.assign data item.1 item.2) []) := by
  rw [blankData, namedDefaults, List.foldl_map]

/-- The blank data have the default of each top-level name. -/
theorem resolve_blankData (source : String)
    (h : ∀ p ∈ (parse source).topLevelNames, ∀ q ∈ (parse source).topLevelNames,
      ¬ IsDottedPrefix p q) (name : String) (hname : name ∈ (parse source).topLevelNames) :
    (Value.object (parse source).blankData).resolve name =
      .text ((parse source).defaultText name) := by
  have hdiverge : (parse source).namedDefaults.Pairwise fun a b => Diverge a.1 b.1 :=
    List.pairwise_map.2 (pairwise_diverge _ (nodup_topLevelNames source) h)
  have hmem : (name, .text ((parse source).defaultText name)) ∈ (parse source).namedDefaults :=
    List.mem_map.2 ⟨name, hname, rfl⟩
  have hwritten := Value.resolve_foldl_assign _ [] hdiverge name _ hmem
  rw [blankData_eq, resolve_foldl_addCollection]
  · exact hwritten
  · rw [hwritten]
    nofun

/-- **The blank data hold the defaults.** Let no top-level name of a template go on behind another
one and a dot. Then each of them reads its default in the blank data, or a blank text. None of them
is reported as defaulted, and those reported as missing are the same as without any data: the ones
whose default is blank. -/
theorem blankData_holds_defaults (source : String)
    (h : ∀ p ∈ (parse source).topLevelNames, ∀ q ∈ (parse source).topLevelNames,
      ¬ IsDottedPrefix p q) :
    let t := parse source
    let data := Value.object t.blankData
    (∀ name ∈ t.topLevelNames, data.resolve name = .text (t.defaultText name)) ∧
      t.defaultedNames data = [] ∧
      t.missingNames data = t.missingNames (.object []) ∧
      t.missingNames (.object []) =
        .ok (t.topLevelNames.filter fun name => t.defaultText name == "") := by
  intro t data
  have hread : ∀ name ∈ t.topLevelNames, data.resolve name = .text (t.defaultText name) :=
    resolve_blankData source h
  have hthere : ∀ name ∈ t.topLevelNames, data.resolve name ≠ .undefined := by
    intro name hname
    rw [hread name hname]
    nofun
  have hdata : t.missingNames data =
      .ok (t.topLevelNames.filter fun name => t.defaultText name == "") := by
    apply missingAmong_of_lookupText
    intro name hname
    rw [lookupText_of_ne_undefined data name _ (hthere name hname), hread name hname]
    rfl
  have hempty : t.missingNames (.object []) =
      .ok (t.topLevelNames.filter fun name => t.defaultText name == "") := by
    apply missingAmong_of_lookupText
    intro name _
    apply lookupText_of_undefined
    rw [Value.resolve_eq]
    rfl
  refine ⟨hread, ?_, hdata.trans hempty.symm, hempty⟩
  rw [defaultedNames, List.filter_eq_nil_iff]
  intro name hname
  rw [fallsBack_of_ne_undefined t data name (hthere name hname)]
  exact Bool.false_ne_true

/-- Two names in one object, a default for one of them, and a loop over the object. -/
theorem blankData_holds_defaults_nested :
    let body := "\x7b\x7bs.n\x7d\x7d\x7b\x7bs.m\x7d\x7d\x7b%for x in s%\x7d"
    let source := "\x7b% defaults %\x7ds.n:7\x7b% enddefaults %\x7d" ++ body
    let t := parse source
    let data := Value.object t.blankData
    t.topLevelNames = ["s.n", "s.m"] ∧
      (∀ p ∈ t.topLevelNames, ∀ q ∈ t.topLevelNames, ¬ IsDottedPrefix p q) ∧
      t.blankData = [("s", .object [("n", .text "7"), ("m", .text "")])] ∧
      data.resolve "s.n" = .text "7" ∧ data.resolve "s.m" = .text "" ∧
      t.defaultedNames data = [] ∧ t.missingNames data = .ok ["s.m"] := by
  intro body source t data
  have hextract : Defaults.extract source = ([("s.n", "7")], body) := by
    rw [Defaults.extract, String.toList_append]
    decide +kernel
  have htokens : (tokenize body).tokens = [
      ⟨⟨.placeholder, "s.n", "\x7b\x7bs.n\x7d\x7d"⟩, ⟨0, 1, 1⟩⟩,
      ⟨⟨.placeholder, "s.m", "\x7b\x7bs.m\x7d\x7d"⟩, ⟨7, 1, 8⟩⟩,
      ⟨⟨.directive, "for x in s", "\x7b%for x in s%\x7d"⟩, ⟨14, 1, 15⟩⟩] := by decide +kernel
  have hfor : Directive.classify "for x in s" = some (.opening (.loop "x" "s")) := by decide
  have hparse := parse_of_extract source body _ hextract
  have houtline : t.outline.names = ["s.n", "s.m"] ∧ t.outline.loops = [⟨"x", "s", 14, 28⟩] := by
    show (parse source).outline.names = _ ∧ (parse source).outline.loops = _
    rw [hparse, Outline.ofText, htokens]
    simp only [Outline.ofTokens, List.filterMap_cons, List.filterMap_nil,
      Token.placeholderName?, Token.loopHead?, Token.directive?, hfor]
    exact ⟨by decide, by decide⟩
  have hdefaults : t.defaults = [("s.n", "7")] := congrArg Template.defaults hparse
  have hnames : t.topLevelNames = ["s.n", "s.m"] := by
    rw [topLevelNames, Outline.items, houtline.1, houtline.2]
    decide
  have happart : ∀ p ∈ t.topLevelNames, ∀ q ∈ t.topLevelNames, ¬ IsDottedPrefix p q := by
    rw [hnames]
    decide
  have hn : t.defaultText "s.n" = "7" := by
    rw [defaultText, hdefaults]
    rfl
  have hm : t.defaultText "s.m" = "" := by
    rw [defaultText, hdefaults]
    rfl
  have hdata : t.blankData = [("s", .object [("n", .text "7"), ("m", .text "")])] := by
    rw [blankData, hnames, houtline.2]
    simp only [List.foldl_cons, List.foldl_nil, hn, hm]
    rfl
  obtain ⟨hread, hdefaulted, hmissing, hempty⟩ := blankData_holds_defaults source happart
  have hmem : "s.n" ∈ t.topLevelNames ∧ "s.m" ∈ t.topLevelNames := by
    rw [hnames]
    decide
  have hblank : (t.topLevelNames.filter fun name => t.defaultText name == "") = ["s.m"] := by
    rw [hnames]
    simp [hn, hm]
  exact ⟨hnames, happart, hdata, (hread "s.n" hmem.1).trans (congrArg Value.text hn),
    (hread "s.m" hmem.2).trans (congrArg Value.text hm), hdefaulted,
    (hmissing.trans hempty).trans (congrArg Except.ok hblank)⟩

/-! ## Loops -/

/-- The names before the loops write no collection whose name none of them begins with. -/
theorem get?_blankData (t : Template) (collection : String)
    (h : ∀ name ∈ t.topLevelNames, firstSegment name ≠ collection) :
    t.blankData.get? collection = (t.outline.loops.find? (·.collection = collection)).map
      fun head => .list [t.blankItem head.item] := by
  have hunwritten : ∀ item ∈ t.namedDefaults, collection ≠ firstSegment item.1 := by
    intro item hitem
    obtain ⟨name, hname, rfl⟩ := List.mem_map.1 hitem
    exact (h name hname).symm
  rw [blankData_eq, get?_foldl_addCollection,
    Value.get?_foldl_assign_of_ne _ _ collection hunwritten]
  rfl

/-- **The blank data have an item for each loop.** Let no top-level name of a template begin with
the collection of one of its loops. Then the blank data have a list for it, with one item. This is
the item of the first loop over the collection. Behind the item of any of these loops, a path that
the template reads is blank there exactly if it has no dot and is read behind the item of the first
loop too; otherwise it leads nowhere. Once a path has been filled in, it is what the placeholder
reads, unless it is empty, since `x.` reads the whole item. -/
theorem blankData_lists_item (source : String) (head : LoopHead)
    (hhead : head ∈ (parse source).outline.loops)
    (hfree : ∀ name ∈ (parse source).topLevelNames, firstSegment name ≠ head.collection) :
    let t := parse source
    ∃ first, t.outline.loops.find? (·.collection = head.collection) = some first ∧
      t.blankData.get? head.collection = some (.list [t.blankItem first.item]) ∧
      ∀ field ∈ t.fieldsOf head.item,
        (t.blankItem first.item).resolve field =
          (if '.' ∉ field.toList ∧ field ∈ t.fieldsOf first.item then .text "" else .undefined) ∧
        (field ≠ "" → ∀ (s : Scope) (value : Value),
          (s.bind head.item
              (.object (Value.assign (t.blankItem first.item).fields field value))).lookup
            (head.item ++ "." ++ field) = value) := by
  intro t
  cases hfind : t.outline.loops.find? (·.collection = head.collection) with
  | none => simpa using List.find?_eq_none.1 hfind head hhead
  | some first =>
    refine ⟨first, rfl, ?_, fun field _ => ⟨resolve_blankItem t first.item field, ?_⟩⟩
    · rw [get?_blankData t head.collection hfree, hfind]
      rfl
    · intro hfield s value
      obtain ⟨hitem, -⟩ := isName_of_mem_loops source head hhead
      rw [Scope.lookup_bind_append s head.item _ field hitem.not_mem_dot hfield]
      exact Value.resolve_assign_self _ field value

/-- The second of two loops over a collection: of the paths read behind its item, one is read behind
the item of the first loop too. -/
theorem blankData_lists_item_shared :
    let source := "\x7b%for a in xs%\x7d\x7b\x7ba.f\x7d\x7d" ++
      "\x7b%for b in xs%\x7d\x7b\x7bb.f\x7d\x7d\x7b\x7bb.g\x7d\x7d"
    let t := parse source
    let head : LoopHead := ⟨"b", "xs", 22, 37⟩
    let item : Value := .object [("f", .text "")]
    head ∈ t.outline.loops ∧ (∀ name ∈ t.topLevelNames, firstSegment name ≠ head.collection) ∧
      t.fieldsOf head.item = ["f", "g"] ∧ t.blankItem "a" = item ∧
      t.blankData.get? head.collection = some (.list [item]) ∧
      item.resolve "f" = .text "" ∧ item.resolve "g" = .undefined ∧
      ((Scope.root (.object []) []).bind "b"
        (.object (Value.assign item.fields "g" (.text "1")))).lookup "b.g" = .text "1" := by
  intro source t head item
  have hblock : Text.cut? Defaults.openingMarker source.toList = none := by
    rw [String.toList_append]
    decide +kernel
  have htokens : (tokenize source).tokens = [
      ⟨⟨.directive, "for a in xs", "\x7b%for a in xs%\x7d"⟩, ⟨0, 1, 1⟩⟩,
      ⟨⟨.placeholder, "a.f", "\x7b\x7ba.f\x7d\x7d"⟩, ⟨15, 1, 16⟩⟩,
      ⟨⟨.directive, "for b in xs", "\x7b%for b in xs%\x7d"⟩, ⟨22, 1, 23⟩⟩,
      ⟨⟨.placeholder, "b.f", "\x7b\x7bb.f\x7d\x7d"⟩, ⟨37, 1, 38⟩⟩,
      ⟨⟨.placeholder, "b.g", "\x7b\x7bb.g\x7d\x7d"⟩, ⟨44, 1, 45⟩⟩] := by decide +kernel
  have ha : Directive.classify "for a in xs" = some (.opening (.loop "a" "xs")) := by decide
  have hb : Directive.classify "for b in xs" = some (.opening (.loop "b" "xs")) := by decide
  have hparse := parse_of_cut?_eq_none source hblock
  have houtline : t.outline.names = ["a.f", "b.f", "b.g"] ∧
      t.outline.loops = [⟨"a", "xs", 0, 15⟩, head] := by
    show (parse source).outline.names = _ ∧ (parse source).outline.loops = _
    rw [hparse, Outline.ofText, htokens]
    simp only [Outline.ofTokens, List.filterMap_cons, List.filterMap_nil,
      Token.placeholderName?, Token.loopHead?, Token.directive?, ha, hb]
    exact ⟨by decide, by decide⟩
  have hfields : t.fieldsOf "a" = ["f"] ∧ t.fieldsOf head.item = ["f", "g"] := by
    rw [fieldsOf, fieldsOf, houtline.1]
    decide
  have hitem : t.blankItem "a" = item := by
    rw [blankItem, hfields.1]
    rfl
  have hhead : head ∈ t.outline.loops := by
    rw [houtline.2]
    decide
  have hfree : ∀ name ∈ t.topLevelNames, firstSegment name ≠ head.collection := by
    rw [topLevelNames, Outline.items, houtline.1, houtline.2]
    decide
  obtain ⟨first, hfind, hlist, hread⟩ := blankData_lists_item source head hhead hfree
  have ht : parse source = t := rfl
  rw [ht] at hfind hlist hread
  rw [houtline.2] at hfind
  cases hfind
  rw [hitem] at hlist hread
  rw [hfields.1, hfields.2] at hread
  obtain ⟨hf, -⟩ := hread "f" (by decide)
  obtain ⟨hg, hfilled⟩ := hread "g" (by decide)
  exact ⟨hhead, hfree, hfields.2, hitem, hlist, hf, hg, hfilled (by decide) _ _⟩

/-- A path of two segments is entered as one name, where it is not read. -/
theorem blankData_lists_item_dotted :
    let source := "\x7b%for a in xs%\x7d\x7b\x7ba.x.y\x7d\x7d\x7b%endfor%\x7d"
    let t := parse source
    t.outline.loops = [⟨"a", "xs", 0, 15⟩] ∧ t.topLevelNames = [] ∧ t.fieldsOf "a" = ["x.y"] ∧
      t.blankData = [("xs", .list [.object [("x.y", .text "")]])] ∧
      (Value.object [("x.y", .text "")]).resolve "x.y" = .undefined := by
  intro source t
  have hblock : Text.cut? Defaults.openingMarker source.toList = none := by decide +kernel
  have htokens : (tokenize source).tokens = [
      ⟨⟨.directive, "for a in xs", "\x7b%for a in xs%\x7d"⟩, ⟨0, 1, 1⟩⟩,
      ⟨⟨.placeholder, "a.x.y", "\x7b\x7ba.x.y\x7d\x7d"⟩, ⟨15, 1, 16⟩⟩,
      ⟨⟨.directive, "endfor", "\x7b%endfor%\x7d"⟩, ⟨24, 1, 25⟩⟩] := by decide +kernel
  have hfor : Directive.classify "for a in xs" = some (.opening (.loop "a" "xs")) := by decide
  have hendfor : Directive.classify "endfor" = some (.closing .loop) := by decide
  have houtline : t.outline.names = ["a.x.y"] ∧ t.outline.loops = [⟨"a", "xs", 0, 15⟩] := by
    show (parse source).outline.names = _ ∧ (parse source).outline.loops = _
    rw [parse_of_cut?_eq_none source hblock, Outline.ofText, htokens]
    simp only [Outline.ofTokens, List.filterMap_cons, List.filterMap_nil,
      Token.placeholderName?, Token.loopHead?, Token.directive?, hfor, hendfor]
    exact ⟨by decide, by decide⟩
  have hnames : t.topLevelNames = [] := by
    rw [topLevelNames, Outline.items, houtline.1, houtline.2]
    decide
  have hfields : t.fieldsOf "a" = ["x.y"] := by
    rw [fieldsOf, houtline.1]
    decide
  refine ⟨houtline.2, hnames, hfields, ?_, rfl⟩
  rw [blankData, hnames, houtline.2]
  simp only [List.foldl_cons, List.foldl_nil, addCollection, blankItem, hfields]
  rfl

end Stencil.Template
