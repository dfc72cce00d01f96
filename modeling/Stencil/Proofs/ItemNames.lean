import Stencil.Proofs.PathReading
import Stencil.Proofs.TemplateNames
import Stencil.Proofs.TreeReads

/-!
# Names at the top level and names of items

The names that a template mentions are filled from its data, or from the items of its loops. Which
of the two is told in two ways: a name is left out of the top level if its first segment is an item,
and it gives an item a field if it begins with the item and a dot. Both come to the same because an
item is a word and has no dot in it: a name that is an item, or an item and a field behind a dot,
has that item as its first segment (`firstSegment_of_belongsTo`), and so it belongs to no other.

## Key results

- `pairwise_idxOf_distinct`: the distinct names keep the order in which they come first.
- `mem_fieldsOf_iff`: the fields of an item, by the names that they come from.
- `belongsTo_iff`: the item of a name is its first segment.
- `names_split`: how the names of a template are divided.
-/

namespace Stencil.Template

/-! ## The order of names -/

/-- The name that an event mentions. -/
def Event.name? : Event → Option String
  | .placeholder name _ => some name
  | _ => none

/-- The distinct elements of a list stand in the order in which they come first. -/
theorem pairwise_idxOf_distinct (xs : List String) :
    (distinct xs).Pairwise fun x y => xs.idxOf x < xs.idxOf y := by
  induction xs with
  | nil => exact List.Pairwise.nil
  | cons z zs ih =>
    have hne : ∀ y ∈ (distinct zs).filter (· != z), z ≠ y := by
      intro y hy
      exact (bne_iff_ne.1 (List.mem_filter.1 hy).2).symm
    rw [distinct, List.pairwise_cons]
    constructor
    · intro y hy
      simp [List.idxOf_cons_ne zs (hne y hy)]
    · apply (ih.filter _).imp_of_mem
      intro x y hx hy hxy
      rw [List.idxOf_cons_ne zs (hne x hx), List.idxOf_cons_ne zs (hne y hy)]
      omega

/-- The name of a placeholder is that of its event. -/
theorem Token.name?_of_event? (t : Token) : t.event?.bind Event.name? = t.placeholderName? := by
  unfold event? placeholderName?
  cases t.shape with
  | directive =>
    cases hd : Directive.classify t.value with
    | none => simp
    | some d => cases d <;> simp [Event.name?]
  | _ => simp [Event.name?]

/-- The names of a text are those of its events, without those that came before. -/
theorem names_ofText (text : String) : (Outline.ofText text).names =
    distinct ((Outline.ofText text).events.filterMap Event.name?) := by
  show distinct ((tokenize text).tokens.filterMap Token.placeholderName?) =
    distinct (((tokenize text).tokens.filterMap Token.event?).filterMap Event.name?)
  rw [List.filterMap_filterMap, ← funext Token.name?_of_event?]

/-! ## Names of items -/

/-- The template reads a field of an item by a name with the item and a dot before it. -/
theorem mem_fieldsOf_iff (t : Template) (item field : String) :
    field ∈ t.fieldsOf item ↔ item ++ "." ++ field ∈ t.outline.names := by
  rw [fieldsOf, mem_distinct, List.mem_filterMap]
  constructor
  · rintro ⟨name, hname, hfield⟩
    obtain ⟨rest, hrest, rfl⟩ := Option.map_eq_some_iff.1 hfield
    have heq : item ++ "." ++ String.ofList rest = name := by
      apply String.toList_injective
      simpa using (Text.afterPrefix?_eq_some_iff.1 hrest).symm
    rwa [heq]
  · intro hname
    refine ⟨_, hname, Option.map_eq_some_iff.2 ⟨field.toList, ?_, String.ofList_toList⟩⟩
    rw [Text.afterPrefix?_eq_some_iff]
    simp

/-- The name is that of an item, or of a field that the template reads of it. -/
def BelongsTo (t : Template) (name item : String) : Prop :=
  name = item ∨ ∃ field ∈ t.fieldsOf item, name = item ++ "." ++ field

/-- The first segment of a name is the item that it belongs to. -/
theorem firstSegment_of_belongsTo (t : Template) (name item : String) (hitem : '.' ∉ item.toList)
    (h : t.BelongsTo name item) : firstSegment name = item := by
  cases h with
  | inl heq =>
    rw [heq]
    exact (firstSegment_of_not_mem item hitem).1
  | inr hfield =>
    obtain ⟨field, -, heq⟩ := hfield
    rw [heq]
    exact firstSegment_append item field hitem

/-- A name of the template belongs to an item exactly if the item is its first segment. -/
theorem belongsTo_iff (t : Template) (name item : String) (hname : name ∈ t.outline.names)
    (hitem : '.' ∉ item.toList) : t.BelongsTo name item ↔ firstSegment name = item := by
  constructor
  · exact firstSegment_of_belongsTo t name item hitem
  · intro hfirst
    cases eq_firstSegment_or_append name with
    | inl heq => exact .inl (by rw [← hfirst, ← heq])
    | inr hrest =>
      obtain ⟨field, heq⟩ := hrest
      rw [hfirst] at heq
      exact .inr ⟨field, (mem_fieldsOf_iff t item field).2 (by rwa [← heq]), heq⟩

theorem not_mem_dot_of_mem_items (source item : String)
    (h : item ∈ (parse source).outline.items) : '.' ∉ item.toList := by
  obtain ⟨head, hhead, rfl⟩ := List.mem_map.1 h
  exact (isName_of_mem_loops source head hhead).1.not_mem_dot

/-- The names of a template are split between its top level and its loops. They are those of its
placeholders, each once and in the order in which they come first. Some of them are at the top
level, in the same order. Each of the others belongs to exactly one item of a loop: it is the item
or a field of it. And a field of an item comes from a name that is not at the top level. -/
structure SplitsNames (t : Template) : Prop where
  nodup : t.outline.names.Nodup
  mem_iff : ∀ name, name ∈ t.outline.names ↔ name ∈ t.outline.events.filterMap Event.name?
  order : t.outline.names.Pairwise fun x y =>
    (t.outline.events.filterMap Event.name?).idxOf x <
      (t.outline.events.filterMap Event.name?).idxOf y
  topLevel : t.topLevelNames.Sublist t.outline.names
  others : ∀ name ∈ t.outline.names, name ∉ t.topLevelNames →
    ∃! item, item ∈ t.outline.items ∧ t.BelongsTo name item
  fields : ∀ item ∈ t.outline.items, ∀ field ∈ t.fieldsOf item,
    item ++ "." ++ field ∈ t.outline.names ∧ item ++ "." ++ field ∉ t.topLevelNames

/-- **Names are split without loss**, in every template. -/
theorem names_split (source : String) : (parse source).SplitsNames := by
  have hnames : (parse source).outline.names =
      distinct ((parse source).outline.events.filterMap Event.name?) :=
    names_ofText (parse source).body
  generalize ht : parse source = t at hnames
  constructor
  case nodup => exact ht ▸ nodup_names source
  case mem_iff =>
    intro name
    rw [hnames, mem_distinct]
  case order =>
    rw [hnames]
    exact pairwise_idxOf_distinct _
  case topLevel => exact List.filter_sublist
  case others =>
    intro name hname htop
    have hfirst : firstSegment name ∈ t.outline.items := by
      rw [mem_topLevelNames_iff, not_and, not_not] at htop
      exact htop hname
    have hbelongs : ∀ item ∈ t.outline.items, t.BelongsTo name item ↔ firstSegment name = item :=
      fun item hitem =>
        belongsTo_iff t name item hname (not_mem_dot_of_mem_items source item (ht ▸ hitem))
    refine ⟨firstSegment name, ⟨hfirst, (hbelongs _ hfirst).2 rfl⟩, ?_⟩
    rintro item ⟨hitem, hname⟩
    exact ((hbelongs item hitem).1 hname).symm
  case fields =>
    intro item hitem field hfield
    have hdot := not_mem_dot_of_mem_items source item (ht ▸ hitem)
    constructor
    · exact (mem_fieldsOf_iff t item field).1 hfield
    · rw [mem_topLevelNames_iff, firstSegment_append item field hdot]
      exact fun h => h.2 hitem

/-- Two items, one of which begins like the other, a name of each, one of them with nothing behind
its dot, and a name at the top level that begins like both items. -/
theorem names_split_alike :
    let source := "\x7b%for a in xs%\x7d\x7b%for ab in xs%\x7d" ++
      "\x7b\x7bab.c\x7d\x7d\x7b\x7babc\x7d\x7d\x7b\x7ba.\x7d\x7d\x7b\x7bab.c\x7d\x7d"
    let t := parse source
    t.outline.names = ["ab.c", "abc", "a."] ∧ t.outline.items = ["a", "ab"] ∧
      t.topLevelNames = ["abc"] ∧
      (∃! item, item ∈ t.outline.items ∧ t.BelongsTo "ab.c" item) ∧
      (∃! item, item ∈ t.outline.items ∧ t.BelongsTo "a." item) ∧
      "" ∈ t.fieldsOf "a" ∧ "a" ++ "." ++ "" ∈ t.outline.names := by
  intro source t
  have hblock : Text.cut? Defaults.openingMarker source.toList = none := by
    rw [String.toList_append]
    decide +kernel
  have htokens : (tokenize source).tokens = [
      ⟨⟨.directive, "for a in xs", "\x7b%for a in xs%\x7d"⟩, ⟨0, 1, 1⟩⟩,
      ⟨⟨.directive, "for ab in xs", "\x7b%for ab in xs%\x7d"⟩, ⟨15, 1, 16⟩⟩,
      ⟨⟨.placeholder, "ab.c", "\x7b\x7bab.c\x7d\x7d"⟩, ⟨31, 1, 32⟩⟩,
      ⟨⟨.placeholder, "abc", "\x7b\x7babc\x7d\x7d"⟩, ⟨39, 1, 40⟩⟩,
      ⟨⟨.placeholder, "a.", "\x7b\x7ba.\x7d\x7d"⟩, ⟨46, 1, 47⟩⟩,
      ⟨⟨.placeholder, "ab.c", "\x7b\x7bab.c\x7d\x7d"⟩, ⟨52, 1, 53⟩⟩] := by decide +kernel
  have ha : Directive.classify "for a in xs" = some (.opening (.loop "a" "xs")) := by decide
  have hab : Directive.classify "for ab in xs" = some (.opening (.loop "ab" "xs")) := by decide
  have houtline : t.outline.names = ["ab.c", "abc", "a."] ∧ t.outline.items = ["a", "ab"] := by
    show (parse source).outline.names = _ ∧ (parse source).outline.items = _
    rw [parse_of_cut?_eq_none source hblock, Outline.ofText, htokens]
    simp only [Outline.ofTokens, Outline.items, List.filterMap_cons, List.filterMap_nil,
      Token.placeholderName?, Token.loopHead?, Token.directive?, ha, hab]
    exact ⟨by decide, rfl⟩
  have htop : t.topLevelNames = ["abc"] := by
    rw [topLevelNames, houtline.1, houtline.2]
    decide
  have hsplit := names_split source
  have hitem : "a" ∈ t.outline.items := by
    rw [houtline.2]
    decide
  have hc : "ab.c" ∈ t.outline.names ∧ "ab.c" ∉ t.topLevelNames := by
    rw [houtline.1, htop]
    decide
  have hdot : "a." ∈ t.outline.names ∧ "a." ∉ t.topLevelNames := by
    rw [houtline.1, htop]
    decide
  have hfield : "" ∈ t.fieldsOf "a" := (mem_fieldsOf_iff t "a" "").2 hdot.1
  exact ⟨houtline.1, houtline.2, htop, hsplit.others "ab.c" hc.1 hc.2,
    hsplit.others "a." hdot.1 hdot.2, hfield, (hsplit.fields "a" hitem "" hfield).1⟩

end Stencil.Template
