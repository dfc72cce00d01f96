import Stencil.Proofs.HereditaryValues
import Stencil.Proofs.PathWriting
import Stencil.Proofs.ValueEquality

/-!
# Laying one object over another

An object is laid over another one name by name. Where both hold objects under a name, the one is
laid over the other in turn, and otherwise the upper value takes the place of the lower one. So what
a path reads afterwards depends on what it reads in the two objects alone, with one thing more to
know: whether the upper object stops the path with a value that is no object (`Blocks`), for such a
value hides all that the lower object has behind it.

The upper object is one that a document can hold (`IsDocument`). If it named something twice, only
the last of these fields would be seen in the end, and if it held `undefined`, this would be read
like a field that is not there and yet hide the lower one.

## Key results

- `get?_mergeFields`, `field?_mergeInto`: what stands under one name.
- `follow_mergeInto`: what a path reads if it leads somewhere in the upper value.
- `follow_mergeInto_of_blocks`, `follow_mergeInto_of_undefined`: what it reads otherwise.
- `mergeFields_again`: an object that is laid over again changes nothing.
- `resolve_mergeFields`: all of this for paths as texts.
-/

namespace Stencil.Value

/-! ## Values of documents -/

/-- A value is the other one, or an item or a field at some depth in it. -/
inductive Within : Value → Value → Prop
  | self (v : Value) : Within v v
  | item {v inner : Value} {items : List Value} (hmem : inner ∈ items) (h : Within v inner) :
      Within v (.list items)
  | field {v : Value} {field : String × Value} {fields : List (String × Value)}
      (hmem : field ∈ fields) (h : Within v field.2) : Within v (.object fields)

theorem within_list_iff (v : Value) (items : List Value) :
    Within v (list items) ↔ v = list items ∨ ∃ inner ∈ items, Within v inner := by
  constructor
  · intro h
    cases h with
    | self => exact .inl rfl
    | item hmem h => exact .inr ⟨_, hmem, h⟩
  · rintro (rfl | ⟨inner, hmem, h⟩)
    · exact .self _
    · exact .item hmem h

theorem within_object_iff (v : Value) (fields : List (String × Value)) :
    Within v (object fields) ↔ v = object fields ∨ ∃ field ∈ fields, Within v field.2 := by
  constructor
  · intro h
    cases h with
    | self => exact .inl rfl
    | field hmem h => exact .inr ⟨_, hmem, h⟩
  · rintro (rfl | ⟨field, hmem, h⟩)
    · exact .self _
    · exact .field hmem h

theorem within_scalar_iff (v scalar : Value) (h : scalar.isScalar = true) :
    Within v scalar ↔ v = scalar := by
  constructor
  · rintro (_ | _ | _)
    · rfl
    · cases h
    · cases h
  · rintro rfl
    exact .self _

/-- What a path leads to names nothing twice if the value it starts from does not. -/
theorem hereditary_namesOnce : Hereditary fun value => value.namesOnce = true where
  undefined := rfl
  item items h := (namesOnce_list items).mp h
  field fields h name v hget :=
    ((namesOnce_object fields).mp h).2 (name, v) (Entries.mem_of_get? fields name v hget)

/-- The value is one that a document can hold: no object names anything twice, and nothing in it is
`undefined`. -/
structure IsDocument (v : Value) : Prop where
  namesOnce : v.namesOnce = true
  defined : ¬ Within undefined v

theorem IsDocument.nodup_keys {fields : Entries Value} (h : IsDocument (object fields)) :
    fields.keys.Nodup :=
  ((namesOnce_object fields).1 h.namesOnce).1

theorem IsDocument.field {fields : Entries Value} (h : IsDocument (object fields)) {name : String}
    {v : Value} (hv : fields.get? name = some v) : IsDocument v where
  namesOnce := hereditary_namesOnce.field fields h.namesOnce name v hv
  defined hundefined := h.defined (.field (Entries.mem_of_get? fields name v hv) hundefined)

theorem IsDocument.ne_undefined {v : Value} (h : IsDocument v) : v ≠ undefined := by
  rintro rfl
  exact h.defined (.self _)

/-- The value is there and is no object. -/
def isLeaf : Value → Bool
  | undefined | object _ => false
  | _ => true

theorem isLeaf_iff (v : Value) :
    v.isLeaf = true ↔ v ≠ undefined ∧ ∀ fields, v ≠ object fields := by
  cases v <;> simp [isLeaf]

/-- The path is stopped before its end, by a value that is no object. -/
def Blocks (v : Value) (path : List String) : Prop :=
  ∃ front, front <+: path ∧ front ≠ path ∧ (v.follow front).isLeaf = true

instance (v : Value) (path : List String) : Decidable (Blocks v path) :=
  decidable_of_iff (∃ front ∈ path.inits, front ≠ path ∧ (v.follow front).isLeaf = true)
    (by simp only [Blocks, List.mem_inits])

theorem follow_of_isLeaf (v : Value) (path : List String) (hv : v.isLeaf = true)
    (hpath : path ≠ []) : v.follow path = undefined := by
  cases path with
  | nil => exact absurd rfl hpath
  | cons name rest =>
    cases v with
    | undefined => cases hv
    | object fields => cases hv
    | _ => rfl

/-- A path is blocked if the field of its first name is no object, or blocks the rest of it. -/
theorem blocks_cons (fields : Entries Value) (name : String) (rest : List String) (inner : Value)
    (hget : fields.get? name = some inner)
    (h : inner.isLeaf = true ∧ rest ≠ [] ∨ Blocks inner rest) :
    Blocks (object fields) (name :: rest) := by
  have hfollow : ∀ path, (object fields).follow (name :: path) = inner.follow path := by
    intro path
    rw [follow_cons, field?, hget, Option.getD_some]
  rcases h with ⟨hleaf, hrest⟩ | ⟨front, hfront, hne, hleaf⟩
  · refine ⟨[name], (List.prefix_cons_inj name).2 List.nil_prefix, ?_, ?_⟩
    · exact fun h => hrest (List.cons.inj h).2.symm
    · rw [hfollow]
      exact hleaf
  · refine ⟨name :: front, (List.prefix_cons_inj name).2 hfront, ?_, ?_⟩
    · exact fun h => hne (List.cons.inj h).2
    · rw [hfollow]
      exact hleaf

/-! ## One name -/

/-- What is no object takes the place of what was there. -/
theorem mergeInto_of_upper (lower : Option Value) (upper : Value)
    (h : ∀ above, upper ≠ object above) : mergeInto lower upper = upper := by
  rw [mergeInto]
  exact fun _ above _ heq => h above heq

/-- A value takes the place of what is no object. -/
theorem mergeInto_of_lower (lower : Option Value) (upper : Value)
    (h : ∀ below, lower ≠ some (object below)) : mergeInto lower upper = upper := by
  rw [mergeInto]
  exact fun below _ heq _ => h below heq

/-- It makes no difference whether there is nothing below or `undefined`. -/
theorem mergeInto_getD (lower : Option Value) (upper : Value) :
    mergeInto (some (lower.getD undefined)) upper = mergeInto lower upper := by
  cases lower with
  | none =>
    rw [mergeInto_of_lower none upper fun _ => nofun]
    exact mergeInto_of_lower _ upper fun _ => nofun
  | some lower => rfl

/-- New names are entered behind the ones that are there. -/
theorem mergeFields_of_disjoint (below above : Entries Value) (habove : above.keys.Nodup)
    (h : ∀ name ∈ above.keys, name ∉ below.keys) : mergeFields below above = below ++ above := by
  induction above generalizing below with
  | nil => exact (List.append_nil below).symm
  | cons field rest ih =>
    obtain ⟨name, value⟩ := field
    obtain ⟨hname, hrest⟩ := List.nodup_cons.1 habove
    have hnew : name ∉ below.keys := h name List.mem_cons_self
    rw [mergeFields, (Entries.get?_eq_none_iff below name).2 hnew,
      mergeInto_of_lower none value fun _ => nofun, Entries.put_of_not_mem below name value hnew,
      ih _ hrest, List.append_assoc, List.singleton_append]
    intro other hother
    rw [Entries.keys, List.map_append, List.mem_append, not_or]
    refine ⟨h other (List.mem_cons_of_mem _ hother), ?_⟩
    rintro hmem
    rw [List.mem_singleton.1 hmem] at hother
    exact hname hother

/-- What is no object can be taken for an empty one: an object takes its place. -/
theorem mergeInto_object (lower : Option Value) (above : Entries Value)
    (habove : above.keys.Nodup) : mergeInto lower (object above) =
      object (mergeFields (lower.getD undefined).fields above) := by
  have hempty : mergeFields [] above = above :=
    mergeFields_of_disjoint [] above habove fun _ _ => List.not_mem_nil
  by_cases hlower : ∃ below, lower = some (object below)
  · obtain ⟨below, rfl⟩ := hlower
    rw [mergeInto]
    rfl
  · have hfields : (lower.getD undefined).fields = [] := by
      cases lower with
      | none => rfl
      | some v =>
        cases v with
        | object below => exact absurd ⟨below, rfl⟩ hlower
        | _ => rfl
    rw [mergeInto_of_lower lower _ fun below heq => hlower ⟨below, heq⟩, hfields, hempty]

/-- Under each name, the upper value is laid over the lower one, if both have the name. -/
theorem get?_mergeFields (below above : Entries Value) (habove : above.keys.Nodup) (name : String) :
    (mergeFields below above).get? name =
      ((above.get? name).map (mergeInto (below.get? name))).or (below.get? name) := by
  induction above generalizing below with
  | nil => rfl
  | cons field rest ih =>
    obtain ⟨key, value⟩ := field
    obtain ⟨hkey, hrest⟩ := List.nodup_cons.1 habove
    rw [mergeFields, ih _ hrest, Entries.get?]
    by_cases hname : key = name
    · subst hname
      rw [(Entries.get?_eq_none_iff rest key).2 hkey, Entries.get?_put_self, if_pos rfl]
      rfl
    · rw [Entries.get?_put_of_ne below _ (Ne.symm hname), if_neg hname]

/-- The same if there is no object below. -/
theorem field?_mergeInto (lower : Value) (above : Entries Value) (habove : above.keys.Nodup)
    (name : String) : (mergeInto (some lower) (object above)).field? name =
      ((above.get? name).map (mergeInto (lower.field? name))).or (lower.field? name) := by
  rw [mergeInto_object _ above habove, Option.getD_some, ← field?_object_fields lower]
  exact get?_mergeFields lower.fields above habove name

/-! ## Along a path -/

/-- A path that leads somewhere in the upper value leads to what it finds there, laid over what it
finds in the lower one. -/
theorem follow_mergeInto (lower upper : Value) (hupper : IsDocument upper) (path : List String)
    (h : upper.follow path ≠ undefined) : (mergeInto (some lower) upper).follow path =
      mergeInto (some (lower.follow path)) (upper.follow path) := by
  induction path generalizing lower upper with
  | nil => rfl
  | cons name rest ih =>
    rw [follow_cons] at h
    rw [follow_cons, follow_cons, follow_cons]
    cases hfield : upper.field? name with
    | none =>
      rw [hfield, Option.getD_none, follow_undefined] at h
      exact absurd rfl h
    | some inner =>
      rw [hfield] at h
      -- only objects have fields
      cases upper with
      | object above =>
        have hget : Entries.get? above name = some inner := hfield
        rw [field?_mergeInto lower above hupper.nodup_keys, hget, Option.map_some, Option.some_or,
          Option.getD_some, Option.getD_some, ← mergeInto_getD]
        exact ih _ inner (hupper.field hget) h
      | _ => cases hfield

/-- A path that the upper value blocks leads nowhere. -/
theorem follow_mergeInto_of_blocks (lower upper : Value) (hupper : IsDocument upper)
    (path : List String) (h : Blocks upper path) :
    (mergeInto (some lower) upper).follow path = undefined := by
  obtain ⟨front, ⟨rest, rfl⟩, hne, hleaf⟩ := h
  have hrest : rest ≠ [] := by
    rintro rfl
    exact hne (List.append_nil front).symm
  obtain ⟨hthere, hobject⟩ := (isLeaf_iff _).1 hleaf
  rw [follow_append, follow_mergeInto lower upper hupper front hthere,
    mergeInto_of_upper _ _ hobject]
  exact follow_of_isLeaf _ rest hleaf hrest

/-- A path that leads nowhere in the upper object, and is not blocked there, leads to what it finds
in the lower value. -/
theorem follow_mergeInto_of_undefined (lower : Value) (above : Entries Value)
    (habove : IsDocument (object above)) (path : List String)
    (hundefined : (object above).follow path = undefined) (h : ¬ Blocks (object above) path) :
    (mergeInto (some lower) (object above)).follow path = lower.follow path := by
  induction path generalizing lower above with
  | nil => cases hundefined
  | cons name rest ih =>
    rw [follow_cons, field?] at hundefined
    rw [follow_cons, follow_cons, field?_mergeInto lower above habove.nodup_keys]
    cases hget : above.get? name with
    | none => rfl
    | some inner =>
      rw [hget, Option.getD_some] at hundefined
      have hinner := habove.field hget
      have hrest : rest ≠ [] := by
        rintro rfl
        exact hinner.ne_undefined hundefined
      have hleaf : inner.isLeaf = false := by
        rw [Bool.eq_false_iff]
        exact fun hleaf => h (blocks_cons above name rest inner hget (.inl ⟨hleaf, hrest⟩))
      cases inner with
      | undefined => exact absurd rfl hinner.ne_undefined
      | object fields =>
        rw [Option.map_some, Option.some_or, Option.getD_some, ← mergeInto_getD]
        exact ih _ fields hinner hundefined
          fun hblocks => h (blocks_cons above name rest _ hget (.inr hblocks))
      | _ => cases hleaf

/-! ## Laying over again -/

/-- Fields change nothing if each of them has been laid over what is there. -/
theorem mergeFields_of_settled (es above : Entries Value)
    (h : ∀ field ∈ above, ∃ v, es.get? field.1 = some v ∧ mergeInto (some v) field.2 = v) :
    mergeFields es above = es := by
  induction above with
  | nil => rfl
  | cons field rest ih =>
    obtain ⟨name, value⟩ := field
    rw [List.forall_mem_cons] at h
    obtain ⟨⟨v, hget, hv⟩, hrest⟩ := h
    dsimp only at hget hv
    rw [mergeFields, hget, hv, Entries.put_of_get? es name v hget]
    exact ih hrest

/-- A value that is laid over again changes nothing. -/
theorem mergeInto_again (upper : Value) (h : upper.namesOnce = true) (lower : Option Value) :
    mergeInto (some (mergeInto lower upper)) upper = mergeInto lower upper := by
  induction upper using induct generalizing lower with
  | scalar v hv =>
    have hplace : ∀ lower, mergeInto lower v = v := by
      refine fun lower => mergeInto_of_upper lower v ?_
      rintro fields rfl
      cases hv
    rw [hplace, hplace]
  | ofItems items ih =>
    have hplace : ∀ lower, mergeInto lower (list items) = list items :=
      fun lower => mergeInto_of_upper lower _ (fun _ => nofun)
    rw [hplace, hplace]
  | ofFields above ih =>
    rw [namesOnce_object] at h
    obtain ⟨hkeys, hfields⟩ := h
    rw [mergeInto_object _ above hkeys, mergeInto_object _ above hkeys, Option.getD_some, fields]
    congr 1
    refine mergeFields_of_settled _ above fun field hfield => ?_
    have hget := Entries.get?_eq_some_of_mem above hkeys field.1 field.2 hfield
    refine ⟨_, ?_, ih field hfield (hfields field hfield)
      (Entries.get? (lower.getD undefined).fields field.1)⟩
    rw [get?_mergeFields _ above hkeys, hget]
    rfl

theorem mergeFields_again (below above : Entries Value) (h : (object above).namesOnce = true) :
    mergeFields (mergeFields below above) above = mergeFields below above := by
  have hkeys := ((namesOnce_object above).1 h).1
  have hagain := mergeInto_again (object above) h (some (object below))
  rw [mergeInto_object _ above hkeys, mergeInto_object _ above hkeys] at hagain
  exact object.inj hagain

/-! ## The law of laying over -/

/-- **Laying over goes path by path.** Let an object of a document be laid over another object, and
let a path lead to `lower` in the one below, to `upper` in the one above and to `merged` in the
result. If `upper` is there and is no object, it takes the place of `lower`. If it is an object, it
is laid over `lower`, if that is an object, and takes its place otherwise. If it is not there, then
neither is `merged`, if the path is blocked above, and `merged` is `lower` otherwise. To lay the
same object over once more changes nothing. -/
theorem resolve_mergeFields (below above : Entries Value) (habove : IsDocument (object above)) :
    (∀ path,
      let lower := (object below).resolve path
      let upper := (object above).resolve path
      let merged := (object (mergeFields below above)).resolve path
      (upper.isLeaf = true → merged = upper) ∧
      (∀ fields, upper = object fields →
        (∀ inner, lower = object inner → merged = object (mergeFields inner fields)) ∧
        ((∀ inner, lower ≠ object inner) → merged = upper)) ∧
      (upper = undefined →
        (Blocks (object above) (segments path) → merged = undefined) ∧
        (¬ Blocks (object above) (segments path) → merged = lower))) ∧
    mergeFields (mergeFields below above) above = mergeFields below above := by
  refine ⟨fun path => ?_, mergeFields_again below above habove.namesOnce⟩
  intro lower upper merged
  have hmerged : merged =
      (mergeInto (some (object below)) (object above)).follow (segments path) := by
    rw [mergeInto_object _ above habove.nodup_keys]
    rfl
  have hthere : upper ≠ undefined → merged = mergeInto (some lower) upper := fun h =>
    hmerged.trans (follow_mergeInto _ _ habove (segments path) h)
  refine ⟨fun hleaf => ?_, fun fields hfields => ?_, fun hundefined => ⟨?_, ?_⟩⟩
  · obtain ⟨hdefined, hobject⟩ := (isLeaf_iff upper).1 hleaf
    rw [hthere hdefined, mergeInto_of_upper _ _ hobject]
  · have hdefined : upper ≠ undefined := by
      rw [hfields]
      nofun
    rw [hthere hdefined]
    refine ⟨fun inner hinner => ?_, fun hlower => ?_⟩
    · rw [hinner, hfields, mergeInto]
    · exact mergeInto_of_lower _ _ fun inner h => hlower inner (Option.some.inj h)
  · exact fun h => hmerged.trans (follow_mergeInto_of_blocks _ _ habove _ h)
  · exact fun h => hmerged.trans (follow_mergeInto_of_undefined _ above habove _ hundefined h)

/-- An object over an object, an object over a text, `null` over an object, and behind that
`null`. -/
theorem resolve_mergeFields_mixed :
    let below : Entries Value := [("site", object [("name", text "dc1"), ("id", int 1)]),
      ("x", text "flat"), ("hub", object [("id", int 2)])]
    let above : Entries Value := [("site", object [("name", text "dc2")]),
      ("x", object [("y", list [])]), ("hub", null)]
    let merged : Entries Value := [("site", object [("name", text "dc2"), ("id", int 1)]),
      ("x", object [("y", list [])]), ("hub", null)]
    IsDocument (object above) ∧ mergeFields below above = merged ∧
      (object merged).resolve "site" = object (mergeFields
        [("name", text "dc1"), ("id", int 1)] [("name", text "dc2")]) ∧
      (object merged).resolve "x" = (object above).resolve "x" ∧
      (object merged).resolve "hub" = (object above).resolve "hub" ∧
      (¬ Blocks (object above) (segments "site.id") ∧
        (object merged).resolve "site.id" = (object below).resolve "site.id") ∧
      (Blocks (object above) (segments "hub.id") ∧
        (object merged).resolve "hub.id" = undefined) ∧
      mergeFields merged above = merged := by
  intro below above merged
  have habove : IsDocument (object above) := by
    have hscalar : ∀ v : Value, v.isScalar = true → v ≠ undefined → ¬ Within undefined v :=
      fun v hv hne h => hne ((within_scalar_iff _ v hv).1 h).symm
    refine ⟨by decide, ?_⟩
    simp [above, within_object_iff, within_list_iff, hscalar null rfl nofun,
      hscalar (text "dc2") rfl nofun]
  have hmerged : mergeFields below above = merged := by rfl
  have hfree : ¬ Blocks (object above) (segments "site.id") := by decide
  have hblocked : Blocks (object above) (segments "hub.id") := by decide
  obtain ⟨hpaths, hagain⟩ := resolve_mergeFields below above habove
  rw [hmerged] at hpaths hagain
  obtain ⟨-, hsite, -⟩ := hpaths "site"
  obtain ⟨-, hx, -⟩ := hpaths "x"
  obtain ⟨hhub, -, -⟩ := hpaths "hub"
  obtain ⟨-, -, hid⟩ := hpaths "site.id"
  obtain ⟨-, -, hbehind⟩ := hpaths "hub.id"
  exact ⟨habove, hmerged, (hsite _ rfl).1 _ rfl, (hx _ rfl).2 (fun _ => nofun), hhub rfl,
    ⟨hfree, (hid rfl).2 hfree⟩, ⟨hblocked, (hbehind rfl).1 hblocked⟩, hagain⟩

end Stencil.Value
