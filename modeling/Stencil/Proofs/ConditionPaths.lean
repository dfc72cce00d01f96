import Stencil.Condition.Eval
import Stencil.Proofs.ConditionParserCorrect
import Stencil.Proofs.PathReading

/-!
# The paths of a condition

A condition looks at the values of its paths and at nothing else: where two environments agree on
the paths, its value is the same, and so is the way it fails. This holds whichever side of an
operator is evaluated, so it holds for all paths that are written in the condition.

The paths are tokens of the condition, and a path is read segment by segment with at least one
character in each; so none of them has an empty segment.

## Key results

- `valueIn_congr`, `evaluate_congr`: a condition depends on its paths only.
- `Derives.paths`: each path in a condition is one of its tokens.
- `isDotted_of_mem_pathsOf`: no path of a condition has an empty segment.
-/

namespace Stencil.Condition

/-! ## What a condition looks at -/

/-- Two environments that agree on the paths of a condition give it the same value. -/
theorem valueIn_congr (look look' : String → Value) (e : Expr)
    (h : ∀ path ∈ e.paths, look path = look' path) (room : Nat) :
    e.valueIn look room = e.valueIn look' room := by
  induction e generalizing room with
  | literal l => rfl
  | path name => exact congrArg Except.ok (h name (List.mem_singleton_self name))
  | group e ih => exact ih h room
  | negation e ih => rw [Expr.valueIn, Expr.valueIn, ih h]
  | compare r left right ihl ihr =>
    have hl := ihl fun path hp => h path (List.mem_append_left _ hp)
    have hr := ihr fun path hp => h path (List.mem_append_right _ hp)
    rw [Expr.valueIn, Expr.valueIn, hl, hr]
  | both left right ihl ihr =>
    have hl := ihl fun path hp => h path (List.mem_append_left _ hp)
    have hr := ihr fun path hp => h path (List.mem_append_right _ hp)
    cases room with
    | zero => rfl
    | succ room => rw [Expr.valueIn, Expr.valueIn, hl, hr]
  | either left right ihl ihr =>
    have hl := ihl fun path hp => h path (List.mem_append_left _ hp)
    have hr := ihr fun path hp => h path (List.mem_append_right _ hp)
    cases room with
    | zero => rfl
    | succ room => rw [Expr.valueIn, Expr.valueIn, hl, hr]

/-- The paths of the condition that a text spells; none if it spells none. -/
def pathsOf (text : String) : List String :=
  match parse text with
  | .ok e => e.paths
  | .error _ => []

/-- Two environments that agree on the paths of a text give it the same outcome. -/
theorem evaluate_congr (look look' : String → Value) (text : String)
    (h : ∀ path ∈ pathsOf text, look path = look' path) :
    evaluate look text = evaluate look' text := by
  unfold pathsOf at h
  rw [evaluate, evaluate, read_eq]
  cases hparse : parse text with
  | error failure => rfl
  | ok e =>
    rw [hparse] at h
    show (e.valueIn look operatorLimit).map Value.isTruthy =
      (e.valueIn look' operatorLimit).map Value.isTruthy
    rw [valueIn_congr look look' e h]

/-! ## Paths are tokens -/

/-- Each path in a condition is one of its tokens. -/
theorem Derives.paths {rank : Rank} {ts : List Token} {e : Expr} (h : Derives rank ts e)
    (name : String) (hname : name ∈ e.paths) : .path name ∈ ts := by
  induction h with
  | conjunction _ ih | equality _ ih | relational _ ih | unary _ ih | primary _ ih =>
    exact ih hname
  | or _ _ ihl ihr | and _ _ ihl ihr | equate _ _ _ _ ihl ihr | order _ _ _ _ ihl ihr =>
    -- the tokens of both operands are tokens of the whole
    rcases List.mem_append.1 hname with hname | hname
    · exact List.mem_append_left _ (ihl hname)
    · exact List.mem_append_right _ (List.mem_cons_of_mem _ (ihr hname))
  | not _ ih => exact List.mem_cons_of_mem _ (ih hname)
  | group _ ih => exact List.mem_cons_of_mem _ (List.mem_append_left _ (ih hname))
  | string | number | keyword => cases hname
  | path other =>
    rw [List.mem_singleton.1 hname]
    exact List.mem_singleton_self _

/-! ## Paths have no empty segment -/

theorem dot_not_mem_takeWhile (s : List Char) : '.' ∉ s.takeWhile Text.isWord := by
  intro h
  exact absurd (List.mem_takeWhile_imp h) (by decide)

/-- Segments behind a segment that is not empty are not empty. -/
theorem nil_not_mem_splitOn_readSegments (first s : List Char) (hne : first ≠ [])
    (hdot : '.' ∉ first) : [] ∉ Text.splitOn '.' (first ++ (readSegments s).1) := by
  -- on the segments read; each one comes before the others in the same way as the first one
  fun_induction readSegments s generalizing first with
  | case1 c s hc segment more rest hrest ih =>
    have hword : '.' ∉ c :: segment := by
      rw [List.mem_cons, not_or]
      refine ⟨?_, dot_not_mem_takeWhile s⟩
      rintro rfl
      exact absurd hc (by decide)
    have hmore := ih (c :: segment) (List.cons_ne_nil c segment) hword
    rw [hrest] at hmore
    show [] ∉ Text.splitOn '.' (first ++ '.' :: (c :: segment ++ more))
    rw [Text.splitOn_append '.' first _ hdot, List.mem_cons, not_or]
    exact ⟨Ne.symm hne, hmore⟩
  | case2 c s hc =>
    rw [List.append_nil, Text.splitOn_of_not_mem '.' first hdot, List.mem_singleton]
    exact Ne.symm hne
  | case3 s h =>
    rw [List.append_nil, Text.splitOn_of_not_mem '.' first hdot, List.mem_singleton]
    exact Ne.symm hne

/-- A path that is read has no empty segment. -/
theorem isDotted_readPath (c : Char) (s : List Char) (hc : startsName c = true) :
    IsDotted (String.ofList (readPath c s).1) := by
  have hword : '.' ∉ c :: s.takeWhile Text.isWord := by
    rw [List.mem_cons, not_or]
    refine ⟨?_, dot_not_mem_takeWhile s⟩
    rintro rfl
    exact absurd hc (by decide)
  have hsegments := nil_not_mem_splitOn_readSegments (c :: s.takeWhile Text.isWord)
    (s.dropWhile Text.isWord) (List.cons_ne_nil c _) hword
  unfold IsDotted segments
  rw [String.toList_ofList, List.mem_map]
  rintro ⟨segment, hsegment, hempty⟩
  -- only the empty text is spelled by no characters
  obtain rfl : segment = [] := String.ofList_eq_empty_iff.1 hempty
  exact hsegments hsegment

/-- A name stands for a path with that name, if for a path at all. -/
theorem eq_of_tokenOfName_eq_path (word name : String) (h : tokenOfName word = .path name) :
    word = name := by
  unfold tokenOfName at h
  split at h
  · cases h
  · split at h
    · cases h
    · split at h
      · cases h
      · split at h
        · cases h
        · exact Token.path.inj h

/-- The text is the name of a path: it is read as one, and it is no word with a meaning of its
own. -/
def IsPathName (name : String) : Prop :=
  ∃ c s, startsName c = true ∧ name = String.ofList (readPath c s).1 ∧ tokenOfName name = .path name

/-- A path among the lexemes has the name of one. -/
theorem isPathName_of_lexeme? (c : Char) (s : List Char) (l : Lexeme) (name : String)
    (h : lexeme? c s = some l) (hl : l.token = .path name) : IsPathName name := by
  unfold lexeme? at h
  split at h
  · -- strings, numerals and symbols are no paths
    obtain ⟨⟨body, rest⟩, -, rfl⟩ := Option.map_eq_some_iff.1 h
    cases hl
  · rcases Option.or_eq_some_iff.1 h with h | ⟨-, h⟩
    · obtain ⟨⟨numeral, rest⟩, -, rfl⟩ := Option.map_eq_some_iff.1 h
      cases hl
    rcases Option.or_eq_some_iff.1 h with h | ⟨-, h⟩
    · unfold readSymbol? at h
      split at h <;> cases h <;> cases hl
    · unfold readName? at h
      split at h
      · next hc =>
        cases h
        obtain rfl := eq_of_tokenOfName_eq_path _ name hl
        exact ⟨c, s, hc, rfl, hl⟩
      · cases h

/-- Each token of a text is read as a lexeme. -/
theorem exists_lexeme?_of_scan (offset : Nat) (s : List Char) (ts : Tokens)
    (h : scan offset s = .ok ts) (t : Located) (ht : t ∈ ts.tokens) :
    ∃ c u l, lexeme? c u = some l ∧ l.token = t.token := by
  fun_induction scan offset s generalizing ts with
  | case1 =>
    cases h
    cases ht
  | case2 offset c s _ ih => exact ih ts h ht
  | case3 => cases h
  | case4 offset c s _ l hl _ us hus ih =>
    cases h
    rcases List.mem_cons.1 ht with rfl | ht
    · exact ⟨c, s, l, hl, rfl⟩
    · exact ih us hus ht
  | case5 => cases h

/-- The paths of a condition have the names of paths. -/
theorem isPathName_of_mem_pathsOf (text name : String) (h : name ∈ pathsOf text) :
    IsPathName name := by
  unfold pathsOf at h
  cases hparse : parse text with
  | error failure =>
    rw [hparse] at h
    cases h
  | ok e =>
    rw [hparse] at h
    obtain ⟨ts, hts, hderives, -⟩ := (parse_eq_ok_iff_derives text e).1 hparse
    obtain ⟨t, ht, htoken⟩ := List.mem_map.1 (hderives.paths name h)
    obtain ⟨c, u, l, hl, heq⟩ := exists_lexeme?_of_scan 0 text.toList ts hts t ht
    exact isPathName_of_lexeme? c u l name hl (heq.trans htoken)

/-- No path of a condition has an empty segment. -/
theorem isDotted_of_mem_pathsOf (text name : String) (h : name ∈ pathsOf text) :
    IsDotted name := by
  obtain ⟨c, s, hc, rfl, -⟩ := isPathName_of_mem_pathsOf text name h
  exact isDotted_readPath c s hc

end Stencil.Condition
