import Mathlib.Data.List.Induction
import Stencil.Proofs.TreeReads

/-!
# Lines and columns

The scanner counts lines and columns on its way through a template. The same line and column are
found from the text and an offset in it: the line feeds before the offset are counted, and the
characters since the last of them. So a token, a nesting problem and the end of the template stand
on the same line and in the same column, whichever way these are counted.

A run of characters takes a place on by its line feeds, and its column starts anew behind the last
of them; without a line feed the column goes on (`advance_eq`). A token stands behind the source
texts of the tokens before it (`exists_split_of_mem_locate`), which are the text up to its offset.

## Key results

- `advance_eq`, `advance_start`: the place after a run of characters, told by the run.
- `lineColumn_of_advance`: both ways of counting, for any part of a text.
- `lineColumn_offset`: the line and the column of a token, told by its offset.
- `places_agree`: the same for tokens, the end of a text, nesting problems and errors.
-/

namespace Stencil

/-- What stands after the last line feed, after one more character. -/
theorem Text.lastLine_concat (s : List Char) (c : Char) :
    lastLine (s ++ [c]) = if c = '\n' then [] else lastLine s ++ [c] := by
  unfold lastLine
  rw [List.reverse_concat, List.takeWhile_cons]
  by_cases hc : c = '\n' <;> simp [hc]

/-- A text without a line feed is one line. -/
theorem Text.lastLine_of_not_mem (s : List Char) (h : '\n' ∉ s) : lastLine s = s := by
  have hall : ∀ c ∈ s.reverse, (c != '\n') = true := by
    intro c hc
    rw [bne_iff_ne]
    intro heq
    exact h (by simpa [heq] using hc)
  rw [lastLine, List.takeWhile_eq_self_iff.2 hall, List.reverse_reverse]

namespace Place

/-- The place after a run of characters, all its line feeds counted at once. -/
theorem advance_eq (p : Place) (s : List Char) :
    p.advance s = ⟨p.offset + s.length, p.line + s.count '\n',
      if '\n' ∈ s then (Text.lastLine s).length + 1 else p.column + s.length⟩ := by
  -- from the last character back, as columns are counted from the last line feed on
  induction s using List.reverseRecOn with
  | nil => simp
  | append_singleton s c ih =>
    rw [advance_append, ih, advance_cons, advance_nil, next, Text.lastLine_concat]
    by_cases hc : c = '\n'
    · simp [hc, Nat.add_assoc]
    · by_cases hs : '\n' ∈ s <;> simp [hc, hs, Ne.symm hc, Nat.add_assoc]

/-- The place after a text that starts at the first character. -/
theorem advance_start (s : List Char) :
    start.advance s = ⟨s.length, s.count '\n' + 1, (Text.lastLine s).length + 1⟩ := by
  rw [advance_eq]
  by_cases hs : '\n' ∈ s
  · simp [start, hs, Nat.add_comm]
  · simp [start, hs, Text.lastLine_of_not_mem s hs, Nat.add_comm]

/-- After a part of a text, the place counted on the way is the one found from the offset. -/
theorem lineColumn_of_advance (before after : List Char) (p : Place)
    (hp : p = start.advance before) :
    Text.lineColumn (before ++ after) p.offset = (p.line, p.column) := by
  rw [hp, advance_start]
  simp [Text.lineColumn]

end Place

namespace Template

/-- A token stands between the source texts of the pieces before it and of those after it. -/
theorem exists_split_of_mem_locate (p : Place) (ps : List Piece) (t : Token)
    (ht : t ∈ locate p ps) :
    ∃ before after, (ps.map (·.raw.toList)).flatten = before ++ (t.raw.toList ++ after) ∧
      t.place = p.advance before := by
  induction ps generalizing p with
  | nil => cases ht
  | cons piece ps ih =>
    rw [List.map_cons, List.flatten_cons]
    cases ht with
    | head => exact ⟨[], (ps.map (·.raw.toList)).flatten, rfl, rfl⟩
    | tail _ ht =>
      obtain ⟨before, after, hsplit, hplace⟩ := ih _ ht
      exact ⟨piece.raw.toList ++ before, after, by simp [hsplit],
        by rw [hplace, Place.advance_append]⟩

/-- A token stands in its text behind what was read before it. -/
theorem exists_split_of_mem_tokenize (text : String) (t : Token)
    (ht : t ∈ (tokenize text).tokens) :
    ∃ before after, text.toList = before ++ (t.raw.toList ++ after) ∧
      t.place = Place.start.advance before := by
  have h := exists_split_of_mem_locate .start (pieces text.toList) t ht
  rwa [flatten_raw_pieces] at h

/-- The line and the column of a token are those of its offset. -/
theorem lineColumn_offset (text : String) (t : Token) (ht : t ∈ (tokenize text).tokens) :
    Text.lineColumn text.toList t.offset = (t.place.line, t.place.column) := by
  obtain ⟨before, after, htext, hplace⟩ := exists_split_of_mem_tokenize text t ht
  rw [htext]
  exact Place.lineColumn_of_advance before _ t.place hplace

/-- The line and the column of the end of a text are those of its offset. -/
theorem lineColumn_stop (text : String) :
    Text.lineColumn text.toList (tokenize text).stop.offset =
      ((tokenize text).stop.line, (tokenize text).stop.column) := by
  have hstop : (tokenize text).stop = Place.start.advance text.toList := by
    rw [tokenize, finish_eq, flatten_raw_pieces]
  have h := Place.lineColumn_of_advance text.toList [] _ hstop
  rwa [List.append_nil] at h

/-! ## Problems -/

/-- The problem is about a marker of the text: a directive that opens or closes a block of the kind
it names. It has the line and the column that are found from the offset of that marker. -/
structure Diagnostic.IsPlacedIn (text : String) (d : Diagnostic) : Prop where
  marksOneOf : d.MarksOneOf (tokenize text).tokens
  lineColumn : Text.lineColumn text.toList d.place.offset = (d.place.line, d.place.column)

theorem isPlacedIn_of_mem_problems (source : String) (d : Diagnostic)
    (h : d ∈ (parse source).problems) : d.IsPlacedIn (parse source).body := by
  have hmarks := exists_marker_of_mem_problems _ d h
  constructor
  · exact hmarks
  · obtain ⟨t, ht, hplace, -⟩ := hmarks
    rw [← hplace]
    exact lineColumn_offset _ t ht

/-- **Lines and columns agree.** Each token of a text and its end have the line and the column that
are found from the text and their offset. So have the problems of a template and the error of a
strict reading, by the marker that they are about; and these two numbers are in the message of the
error. -/
theorem places_agree (text source : String) :
    (∀ t ∈ (tokenize text).tokens,
      Text.lineColumn text.toList t.offset = (t.place.line, t.place.column)) ∧
    Text.lineColumn text.toList (tokenize text).stop.offset =
      ((tokenize text).stop.line, (tokenize text).stop.column) ∧
    (∀ d ∈ (parse source).problems, d.IsPlacedIn (parse source).body) ∧
    ∀ d, parseStrict source = .error d →
      d.IsPlacedIn (parse source).body ∧
      let (line, column) := Text.lineColumn (parse source).body.toList d.place.offset
      d.errorMessage = d.message ++ " at " ++ (toString line ++ ":" ++ toString column) := by
  have hproblems : ∀ d ∈ (parse source).problems, d.IsPlacedIn (parse source).body :=
    isPlacedIn_of_mem_problems source
  refine ⟨lineColumn_offset text, lineColumn_stop text, hproblems, ?_⟩
  intro d herror
  -- the error is the first of the problems
  have hmem : d ∈ (parse source).problems := by
    rw [parseStrict_eq] at herror
    cases hp : (parse source).problems with
    | nil => simp [hp] at herror
    | cons first rest =>
      rw [hp] at herror
      cases herror
      exact List.mem_cons_self
  have hplaced := hproblems d hmem
  refine ⟨hplaced, ?_⟩
  rw [hplaced.lineColumn]
  rfl

/-- A conditional that nothing closes, with a line feed before its marker and one inside, and a
placeholder behind it. -/
theorem places_agree_third_line :
    let source := "a\n \x7b% if\nb %\x7d\x7b\x7bx\x7d\x7d"
    let x : Token := ⟨⟨.placeholder, "x", "\x7b\x7bx\x7d\x7d"⟩, ⟨13, 3, 5⟩⟩
    let d : Diagnostic := ⟨.unclosed .conditional, ⟨3, 2, 2⟩⟩
    x ∈ (tokenize source).tokens ∧ Text.lineColumn source.toList 13 = (3, 5) ∧
      parseStrict source = .error d ∧ d.IsPlacedIn (parse source).body ∧
      d.errorMessage = "Unclosed 'if' block at 2:2" := by
  intro source x d
  have htokens : (tokenize source).tokens =
      [⟨⟨.run, "a\n ", "a\n "⟩, ⟨0, 1, 1⟩⟩,
        ⟨⟨.directive, "if\nb", "\x7b% if\nb %\x7d"⟩, ⟨3, 2, 2⟩⟩, x] := by
    decide +kernel
  have hblock : Text.cut? Defaults.openingMarker source.toList = none := by decide +kernel
  have hif : Directive.classify "if\nb" = some (.opening (.conditional "b")) := by decide
  have hproblems : (parse source).problems = [d] := by
    rw [parse_of_cut?_eq_none source hblock]
    show (Tree.ofTokens (tokenize source).tokens).problems = _
    rw [htokens, Tree.ofTokens]
    simp only [List.foldl_cons, List.foldl_nil, Builder.read, hif]
    rfl
  have hstrict : parseStrict source = .error d := by rw [parseStrict_eq, hproblems]
  obtain ⟨hplaces, -, -, herror⟩ := places_agree source source
  obtain ⟨hplaced, hmessage⟩ := herror d hstrict
  have hx : x ∈ (tokenize source).tokens := by simp [htokens]
  rw [hplaced.lineColumn] at hmessage
  exact ⟨hx, hplaces x hx, hstrict, hplaced, hmessage.trans (by decide +kernel)⟩

end Template

end Stencil
