import Stencil.Proofs.ConditionComposition
import Stencil.Proofs.DistinctNames
import Stencil.Proofs.TreeReads

/-!
# Defaults as data

If no default has a dot in its name, defaults are data that stand under the data: a rendering gives
the same if their texts are entered as fields and the data are laid over them. The scope looks for
a default only when a whole path has led nowhere, while a field is read segment by segment. The two
come to the same because a text has no fields, so that a path of several segments leads nowhere
through a default either.

A field that holds `undefined` counts as one that is not there, and its default is used. It has to
be left out of the data that are laid over the defaults.

## Key results

- `lookupOutside_eq_follow`: a default is read as a field.
- `lookup_eq_of_agree`: scopes that read the same names read the same paths.
- `renderIn_defaults_eq_data`: a rendering with defaults is one with more data.
-/

namespace Stencil

/-! ## Names and paths -/

namespace Value

/-- Whether the value is that of a path that leads nowhere. -/
def isUndefined : Value → Bool
  | undefined => true
  | _ => false

end Value

namespace Scope

/-- The defaults are of names without a dot. -/
def HasPlainDefaults (s : Scope) : Prop := ∀ key ∈ s.defaults.keys, '.' ∉ key.toList

/-- A default is read as a field: a path goes on from what its first segment reads. -/
theorem lookupOutside_eq_follow (s : Scope) (h : s.HasPlainDefaults) (path : String) :
    s.lookupOutside path = (s.lookupOutside (firstSegment path)).follow (laterSegments path) := by
  by_cases hdot : '.' ∈ path.toList
  · -- the path has no default, and that of its first segment is a text
    have hlater := laterSegments_ne_nil path hdot
    have hnone : s.defaults.get? path = none :=
      (Entries.get?_eq_none_iff s.defaults path).2 fun hkey => h path hkey hdot
    have hpath : s.lookupOutside path = s.data.resolve path := by
      rw [lookupOutside, hnone]
      cases s.data.resolve path <;> rfl
    rw [hpath, Value.resolve_eq_follow, lookupOutside]
    cases s.data.resolve (firstSegment path) with
    | undefined =>
      rw [Value.follow_undefined]
      cases s.defaults.get? (firstSegment path) with
      | none => exact (Value.follow_undefined _).symm
      | some text => exact (Value.follow_text text _ hlater).symm
    | null | bool | number | text | list | object => rfl
  · obtain ⟨hfirst, hlater⟩ := firstSegment_of_not_mem path hdot
    rw [hfirst, hlater]
    rfl

/-- The scopes have the same bindings and read the same names outside all loops. No default of
either has a dot in its name. -/
structure Agree (s s' : Scope) : Prop where
  plain : s.HasPlainDefaults
  plain' : s'.HasPlainDefaults
  bindings : s.bindings = s'.bindings
  outside : ∀ name, '.' ∉ name.toList → s.lookupOutside name = s'.lookupOutside name

/-- Scopes that read the same names read the same paths. -/
theorem lookup_eq_of_agree (s s' : Scope) (h : Agree s s') (path : String) :
    s.lookup path = s'.lookup path := by
  have houtside : s.lookupOutside path = s'.lookupOutside path := by
    rw [lookupOutside_eq_follow s h.plain, lookupOutside_eq_follow s' h.plain',
      h.outside _ (not_mem_firstSegment path)]
  unfold lookup
  rw [h.bindings, houtside]

theorem paired_agree (paths items : List String) : Paired Agree paths items where
  lookup s s' h path _ := lookup_eq_of_agree s s' h path
  bind _ _ h item _ element :=
    ⟨h.plain, h.plain', congrArg (Entries.put · item element) h.bindings, h.outside⟩

end Scope

/-- Scopes that read the same names give the same renderings. -/
theorem renderIn_eq_of_agree (s s' : Scope) (nodes : List Template.Node) (h : Scope.Agree s s') :
    renderIn s nodes = renderIn s' nodes :=
  Renderer.renderIn_congr Scope.Agree nodes (Scope.paired_agree _ _) s s' h

/-! ## The data over the defaults -/

/-- The default texts as fields, with the data over them. -/
def fallbackData (defaults : Entries String) (data : Entries Value) : Entries Value :=
  .ofPairs ((defaults.map fun (name, text) => (name, .text text)) ++ data)

/-- The fields that are there: those with another value than `undefined`. -/
def presentFields (data : Entries Value) : Entries Value :=
  data.filter fun field => !field.2.isUndefined

theorem get?_fallbackData (defaults : Entries String) (data : Entries Value)
    (hdefaults : defaults.keys.Nodup) (hdata : data.keys.Nodup) (name : String) :
    (fallbackData defaults data).get? name =
      (data.get? name).or ((defaults.get? name).map .text) := by
  rw [fallbackData, Entries.get?_ofPairs_append _ _ (by rwa [Entries.keys_map]) hdata,
    Entries.get?_map]

/-- What the fields that are there read under a name is what all of them read. -/
theorem get?_presentFields (data : Entries Value) (hdata : data.keys.Nodup) (name : String) :
    ((presentFields data).get? name).getD .undefined = (data.get? name).getD .undefined ∧
      (presentFields data).get? name ≠ some .undefined := by
  have hget : (presentFields data).get? name =
      (data.get? name).filter fun value => !value.isUndefined :=
    Entries.get?_filter (fun value : Value => !value.isUndefined) data hdata name
  rw [hget]
  cases data.get? name with
  | none => exact ⟨rfl, nofun⟩
  | some value => cases value <;> exact ⟨rfl, nofun⟩

/-- The scopes with the default texts as defaults and as fields read the same names, if the fields
over them are those of the data and none of them hides a default without having a value. -/
theorem agree_fallbackData (data fields : Entries Value) (defaults : Entries String)
    (bindings : Entries Value) (hdefaults : defaults.keys.Nodup) (hfields : fields.keys.Nodup)
    (hplain : ∀ key ∈ defaults.keys, '.' ∉ key.toList)
    (hsame : ∀ name, (fields.get? name).getD .undefined = (data.get? name).getD .undefined)
    (hthere : ∀ name ∈ defaults.keys, fields.get? name ≠ some .undefined) :
    Scope.Agree ⟨.object data, defaults, bindings⟩
      ⟨.object (fallbackData defaults fields), [], bindings⟩ where
  plain := hplain
  plain' := nofun
  bindings := rfl
  outside name hname := by
    unfold Scope.lookupOutside
    rw [Value.resolve_of_not_mem _ name hname, Value.resolve_of_not_mem _ name hname]
    dsimp only [Value.field?]
    rw [← hsame, get?_fallbackData defaults fields hdefaults hfields]
    cases hget : fields.get? name with
    | none => cases defaults.get? name <;> rfl
    | some value =>
      cases value with
      | undefined =>
        -- a name without a value has no default
        have hkey : name ∉ defaults.keys := fun hkey => hthere name hkey hget
        rw [(Entries.get?_eq_none_iff defaults name).2 hkey]
        rfl
      | null | bool | number | text | list | object => rfl

/-- **Defaults are fallback data.** Let no default have a dot in its name. Then any nodes give the
same text and the same notes with the defaults as with the data laid over them, where a field that
holds `undefined` counts as one that is not there. If no default has the name of such a field, none
has to be left out, and every path reads the same whatever loops have bound. A value that is there
is never replaced by a default, and where an item is bound, neither the data nor the defaults are
looked at. -/
theorem renderIn_defaults_eq_data (data : Entries Value) (defaults : Entries String)
    (hdata : data.keys.Nodup) (hdefaults : defaults.keys.Nodup)
    (hplain : ∀ key ∈ defaults.keys, '.' ∉ key.toList) :
    (∀ nodes, renderIn (.root (.object data) defaults) nodes =
      renderIn (.root (.object (fallbackData defaults (presentFields data))) []) nodes) ∧
    ((∀ key ∈ defaults.keys, data.get? key ≠ some .undefined) →
      (∀ nodes, renderIn (.root (.object data) defaults) nodes =
        renderIn (.root (.object (fallbackData defaults data)) []) nodes) ∧
      ∀ bindings path, Scope.lookup ⟨.object data, defaults, bindings⟩ path =
        Scope.lookup ⟨.object (fallbackData defaults data), [], bindings⟩ path) ∧
    (∀ path, (Value.object data).resolve path ≠ .undefined →
      (Scope.root (.object data) defaults).lookup path = (Value.object data).resolve path) ∧
    ∀ bindings path element, Entries.get? bindings (firstSegment path) = some element →
      Scope.lookup ⟨.object data, defaults, bindings⟩ path =
        Scope.lookup ⟨.object [], [], bindings⟩ path := by
  refine ⟨fun nodes => ?_, fun hthere => ?_, fun path hpath => ?_,
    fun bindings path element hget => ?_⟩
  · have hpresent : (presentFields data).keys.Nodup := hdata.sublist (List.filter_sublist.map _)
    have hread := get?_presentFields data hdata
    exact renderIn_eq_of_agree _ _ nodes (agree_fallbackData data _ defaults [] hdefaults hpresent
      hplain (fun name => (hread name).1) fun name _ => (hread name).2)
  · have hagree : ∀ bindings, Scope.Agree ⟨.object data, defaults, bindings⟩
        ⟨.object (fallbackData defaults data), [], bindings⟩ := fun bindings =>
      agree_fallbackData data data defaults bindings hdefaults hdata hplain (fun _ => rfl) hthere
    exact ⟨fun nodes => renderIn_eq_of_agree _ _ nodes (hagree []),
      fun bindings path => Scope.lookup_eq_of_agree _ _ (hagree bindings) path⟩
  · rw [Scope.lookup_of_free _ path rfl, Scope.lookupOutside]
    split
    · next hundefined => exact absurd hundefined hpath
    · rfl
  · unfold Scope.lookup
    rw [hget]

/-- A `null` before its default, an item with the name of a default, a default in a loop, as a
collection and in a condition, and a path through a default. -/
theorem renderIn_defaults_eq_data_shadowed :
    let nodes : List Template.Node := [.placeholder "n" 0,
      .loop "d" "xs" 5 [.placeholder "d.n" 20, .placeholder "d" 27, .placeholder "e" 32],
      .loop "y" "e" 47 [.text "!"],
      .conditional "e=='f'&&d.n==null" 72 [.placeholder "d" 96]]
    let data : Entries Value :=
      [("n", .null), ("xs", .list [.object [("n", .text "1")], .text "t"])]
    let defaults : Entries String := [("n", "x"), ("d", "D"), ("e", "f")]
    let merged : Entries Value := [("n", .null), ("d", .text "D"), ("e", .text "f"),
      ("xs", .list [.object [("n", .text "1")], .text "t"])]
    (data.keys.Nodup ∧ defaults.keys.Nodup ∧ (∀ key ∈ defaults.keys, '.' ∉ key.toList) ∧
      ∀ key ∈ defaults.keys, data.get? key ≠ some .undefined) ∧
    fallbackData defaults data = merged ∧
    renderIn (.root (.object data) defaults) nodes = renderIn (.root (.object merged) []) nodes ∧
    renderIn (.root (.object merged) []) nodes = ⟨.ok "1ftfD", [Renderer.notAList "e"]⟩ := by
  intro nodes data defaults merged
  have hdata : data.keys.Nodup := by decide
  have hdefaults : defaults.keys.Nodup := by decide
  have hplain : ∀ key ∈ defaults.keys, '.' ∉ key.toList := by decide
  have hthere : ∀ key ∈ defaults.keys, data.get? key ≠ some .undefined := by
    intro key hkey hget
    simp only [defaults, Entries.keys, List.map_cons, List.map_nil, List.mem_cons,
      List.not_mem_nil, or_false] at hkey
    rcases hkey with rfl | rfl | rfl <;> cases hget
  have hmerged : fallbackData defaults data = merged := rfl
  obtain ⟨-, hrender, -⟩ := renderIn_defaults_eq_data data defaults hdata hdefaults hplain
  obtain ⟨hrender, -⟩ := hrender hthere
  rw [hmerged] at hrender
  refine ⟨⟨hdata, hdefaults, hplain, hthere⟩, hmerged, hrender nodes, ?_⟩
  have hcondition : Condition.parse "e=='f'&&d.n==null" =
      .ok (.both (.compare .eq (.path "e") (.literal (.text "f")))
        (.compare .eq (.path "d.n") (.literal .null))) := by decide +kernel
  have hjudge : judgeIn (.root (.object merged) []) "e=='f'&&d.n==null" = (.ok true, []) := by
    rw [Renderer.judgeIn_eq_verdict, Condition.evaluate_of_parse _ _ _ hcondition]
    rfl
  rw [renderIn_eq_outcomes]
  simp only [nodes, Renderer.outcomes, Renderer.outcome, hjudge]
  rfl

/-- A field that holds `undefined` has to be left out of the data: it hides a default that is under
it as data, and that a scope would use. -/
theorem renderIn_undefined_field :
    let nodes := (Template.parse "\x7b\x7bx\x7d\x7d").nodes
    let data : Entries Value := [("x", .undefined)]
    let defaults : Entries String := [("x", "a")]
    data.keys.Nodup ∧ defaults.keys.Nodup ∧ (∀ key ∈ defaults.keys, '.' ∉ key.toList) ∧
      renderIn (.root (.object data) defaults) nodes ≠
        renderIn (.root (.object (fallbackData defaults data)) []) nodes := by
  intro nodes data defaults
  have hblock : Text.cut? Template.Defaults.openingMarker "\x7b\x7bx\x7d\x7d".toList = none := by
    decide +kernel
  have htokens : (Template.tokenize "\x7b\x7bx\x7d\x7d").tokens =
      [⟨⟨.placeholder, "x", "\x7b\x7bx\x7d\x7d"⟩, ⟨0, 1, 1⟩⟩] := by decide +kernel
  have hnodes : nodes = [.placeholder "x" 0] := by
    show (Template.parse _).nodes = _
    rw [Template.parse_of_cut?_eq_none _ hblock, htokens]
    rfl
  have hdefault : renderIn (.root (.object data) defaults) nodes = ⟨.ok "a", []⟩ := by
    rw [hnodes, renderIn_eq_outcomes]
    rfl
  have hfield :
      renderIn (.root (.object (fallbackData defaults data)) []) nodes = ⟨.ok "", []⟩ := by
    rw [hnodes, renderIn_eq_outcomes]
    rfl
  refine ⟨by decide, by decide, by decide, ?_⟩
  rw [hdefault, hfield]
  intro h
  injection h with htext
  injection htext with htext
  exact absurd htext (by decide)

end Stencil
