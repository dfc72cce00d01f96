import Mathlib.Data.List.Infix
import Stencil.Proofs.DefaultsBlock
import Stencil.Proofs.DefaultsRoundTrip
import Stencil.Proofs.TemplateNames
import Stencil.Proofs.TreeReads

/-!
# A block with a blank line for each name

A template without a defaults block gets one in which each of its top-level names has a line of its
own, with nothing behind the colon. What is read of such a block depends on the names. A template
may name almost anything, and a line of the block may not: behind a colon the text begins, the sign
of a comment makes the whole line one, the end of a line cuts a name in two, and a closing marker
ends the block. Names of another kind are read as they were written (`IsWritable`).

## Key results

- `find?_blankBlock`: the block ends at its own marker.
- `ofBody_blankLines`: its lines set the names to blank texts.
- `extract_blankBlock_iff`: the block is read as it was written exactly if all names are writable.
- `scaffold_scaffold`: a second scaffold adds nothing.
- `scaffold_read_back`: when the scaffold of a template is read as it was written.
-/

namespace Stencil.Template

open Stencil.Text

namespace Defaults

/-! ## Lines -/

/-- A line of a defaults block can be that of the name. -/
structure IsWritable (name : String) : Prop where
  no_colon : ':' ∉ name.toList
  no_comment : name.toList.head? ≠ some '#'
  unbroken : IsUnbroken name.toList
  no_closing : ¬ closingMarker <:+: name.toList

instance (name : String) : Decidable (IsWritable name) :=
  decidable_of_iff (':' ∉ name.toList ∧ name.toList.head? ≠ some '#' ∧ IsUnbroken name.toList ∧
      ¬ closingMarker <:+: name.toList)
    ⟨fun ⟨h₁, h₂, h₃, h₄⟩ => ⟨h₁, h₂, h₃, h₄⟩, fun ⟨h₁, h₂, h₃, h₄⟩ => ⟨h₁, h₂, h₃, h₄⟩⟩

theorem toList_blankLine (name : String) : (blankLine name).toList = name.toList ++ [':', ' '] := by
  rw [blankLine, String.toList_append]
  rfl

theorem isUnbroken_blankLine (name : String) (h : IsUnbroken name.toList) :
    IsUnbroken (blankLine name).toList := by
  rw [toList_blankLine, isUnbroken_append]
  exact ⟨h, by decide⟩

/-- The line that is written for a name sets it to a blank text. -/
theorem entry?_read_blankLine (name : String) (h : Settable name "") :
    Line.entry? (Line.read (blankLine name).toList) = some (name, "") := by
  -- the blank behind the colon is trimmed
  have hblank : trim (blankLine name).toList = trim (name.toList ++ [':']) := by
    rw [toList_blankLine, ← trim_append_blanks (name.toList ++ [':']) [' '] (by decide)]
    simp
  have hline := trim_line name "" h [] (by rintro c ⟨⟩; decide)
  rw [entry?_read_of_trim _ [] name "" h (hblank.trans hline)]
  rfl

/-- The lines that are written for names. -/
def blankLines (names : List String) : List Char :=
  names.flatMap fun name => (blankLine name).toList ++ ['\n']

theorem blankLines_cons (name : String) (names : List String) :
    blankLines (name :: names) = (blankLine name).toList ++ '\n' :: blankLines names := by
  simp [blankLines]

theorem lines_blankLines (names : List String) (h : ∀ name ∈ names, IsUnbroken name.toList) :
    lines (blankLines names) = names.map fun name => (blankLine name).toList := by
  induction names with
  | nil => rfl
  | cons name names ih =>
    rw [List.forall_mem_cons] at h
    rw [blankLines_cons, lines_append _ _ (isUnbroken_blankLine name h.1), ih h.2, List.map_cons]

/-- The lines set the names to blank texts. -/
theorem ofBody_blankLines (names : List String) (hnames : names.Nodup)
    (h : ∀ name ∈ names, Settable name "") :
    ofBody ('\n' :: blankLines names) = names.map fun name => (name, "") := by
  -- the text of the block begins with the end of the marker's own line
  have hlines : readLines ('\n' :: blankLines names) =
      Line.read [] :: names.map fun name => Line.read (blankLine name).toList := by
    have hfirst := lines_append [] (blankLines names) isUnbroken_nil
    rw [List.nil_append, lines_blankLines names fun name hname => (h name hname).unbroken_name]
      at hfirst
    simp [readLines, hfirst]
  have hentries : (readLines ('\n' :: blankLines names)).filterMap Line.entry? =
      names.map fun name => (name, "") := by
    rw [hlines, List.filterMap_cons_none rfl, List.filterMap_map]
    rw [← List.filterMap_eq_map]
    exact List.filterMap_congr fun name hname => entry?_read_blankLine name (h name hname)
  rw [ofBody, hentries]
  apply Entries.ofPairs_of_nodup
  simpa [Entries.keys, Function.comp_def] using hnames

/-! ## The block -/

/-- A closing marker in the lines is one in a name. -/
theorem closingMarker_infix_blankLines_iff (names : List String) :
    closingMarker <:+: blankLines names ↔ ∃ name ∈ names, closingMarker <:+: name.toList := by
  have hcolon : ':' ∉ closingMarker := by decide
  have hend : '\n' ∉ closingMarker := by decide
  have hblank : ¬ closingMarker <:+: [' '] := by decide
  induction names with
  | nil => simp [blankLines, closingMarker_ne_nil]
  | cons name names ih =>
    have hline : blankLines (name :: names) =
        name.toList ++ ':' :: ([' '] ++ '\n' :: blankLines names) := by
      simp [blankLines_cons, toList_blankLine]
    rw [hline, infix_append_cons_iff _ _ _ ':' hcolon, infix_append_cons_iff _ _ _ '\n' hend]
    simp [hblank, ih]

theorem toList_blankBlock (names : List String) :
    (blankBlock names).toList = openingMarker ++ '\n' :: (blankLines names ++ closingMarker) := by
  have hlines : (String.intercalate "\n"
      (names.map blankLine ++ [String.ofList closingMarker])).toList =
        blankLines names ++ closingMarker := by
    induction names with
    | nil => simp [blankLines]
    | cons name names ih =>
      rw [List.map_cons, List.cons_append, String.intercalate_cons_of_ne_nil (by simp),
        String.toList_append, String.toList_append, ih, blankLines_cons]
      simp
  rw [blankBlock, String.intercalate_cons_of_ne_nil (by simp), String.toList_append,
    String.toList_append, hlines]
  simp

/-- A template that begins with the block is cut at its opening marker. -/
theorem toList_blankBlock_append (names : List String) (rest : String) :
    (blankBlock names ++ rest).toList =
      openingMarker ++ ('\n' :: blankLines names ++ (closingMarker ++ rest.toList)) := by
  simp [String.toList_append, toList_blankBlock]

/-- The block that is written before a text ends at its own marker, if no name has one in it. -/
theorem find?_blankBlock (names : List String) (rest : String)
    (h : ∀ name ∈ names, ¬ closingMarker <:+: name.toList) :
    Block.find? (blankBlock names ++ rest).toList =
      some ⟨[], '\n' :: blankLines names, rest.toList⟩ := by
  rw [find?_eq_some_iff]
  refine ⟨toList_blankBlock_append names rest, by simp [openingMarker_ne_nil], ?_⟩
  rw [← List.nil_append ('\n' :: blankLines names),
    infix_append_cons_iff _ _ _ '\n' (by decide), closingMarker_infix_blankLines_iff]
  rintro (hnil | ⟨name, hname, hin⟩)
  · exact absurd hnil (by simp [closingMarker_ne_nil])
  · exact h name hname hin

/-- A text with the block before it has a block, whatever the names are. -/
theorem find?_blankBlock_ne_none (names : List String) (rest : String) :
    Block.find? (blankBlock names ++ rest).toList ≠ none := by
  intro hnone
  refine (find?_eq_none_iff _).1 hnone [] _ (toList_blankBlock_append names rest)
    (by simp [openingMarker_ne_nil]) ?_
  exact ⟨'\n' :: blankLines names, rest.toList, List.append_assoc _ _ _⟩

/-- **A block with a blank line for each name is read as it was written exactly if all names are
writable.** The names are trimmed ones, and none comes twice. -/
theorem extract_blankBlock_iff (names : List String) (rest : String) (hnodup : names.Nodup)
    (htrim : ∀ name ∈ names, name ≠ "" ∧ trim name.toList = name.toList) :
    extract (blankBlock names ++ rest) = (names.map fun name => (name, ""), rest) ↔
      ∀ name ∈ names, IsWritable name := by
  constructor
  · intro h
    obtain ⟨b, hb⟩ := Option.ne_none_iff_exists'.1 (find?_blankBlock_ne_none names rest)
    have hcuts := (find?_eq_some_iff _ b).1 hb
    rw [extract, hb, Prod.mk.injEq] at h
    obtain ⟨hdefaults, hbody⟩ := h
    -- nothing is before the block, so what is read of it is what was written
    have hbefore : b.before = [] := by
      have hopening := (cut?_openingMarker_iff _ _ _).2 ⟨hcuts.eq_append, hcuts.opening⟩
      rw [toList_blankBlock_append, cut?_mark_append, Option.some.injEq, Prod.mk.injEq] at hopening
      exact hopening.1.symm
    have hafter : b.after = rest.toList := by
      rw [hbefore, List.nil_append] at hbody
      rw [← hbody, String.toList_ofList]
    have hinner : b.inner = '\n' :: blankLines names := by
      have hall := hcuts.eq_append
      rw [toList_blankBlock_append, hbefore, hafter, List.nil_append, List.append_cancel_left_eq,
        List.append_cancel_right_eq] at hall
      exact hall.symm
    intro name hname
    have hsettable := (isStorable_ofBody b.inner).settable name "" (by
      rw [hdefaults]
      exact List.mem_map_of_mem hname)
    refine ⟨hsettable.no_colon, hsettable.no_comment, hsettable.unbroken_name, fun hclosing => ?_⟩
    refine hcuts.closing ?_
    rw [hinner]
    exact ((closingMarker_infix_blankLines_iff names).2 ⟨name, hname, hclosing⟩).trans
      (List.suffix_cons _ _).isInfix
  · intro h
    have hsettable : ∀ name ∈ names, Settable name "" := fun name hname =>
      ⟨(htrim name hname).1, (htrim name hname).2, (h name hname).no_colon,
        (h name hname).no_comment, (h name hname).unbroken, isUnbroken_nil⟩
    rw [extract, find?_blankBlock names rest fun name hname => (h name hname).no_closing]
    simp [ofBody_blankLines names hnodup hsettable]

end Defaults

/-! ## Templates with a scaffold -/

/-- A template with a block stays as it is. -/
theorem scaffold_of_find?_ne_none (source : String)
    (h : Defaults.Block.find? source.toList ≠ none) : scaffold source = source := by
  obtain ⟨b, hb⟩ := Option.ne_none_iff_exists'.1 h
  rw [scaffold, hb]

/-- A template without a block gets one for its top-level names, if it has any. -/
theorem scaffold_of_names (source : String) (hblock : Defaults.Block.find? source.toList = none)
    (hnames : (parse source).topLevelNames ≠ []) :
    scaffold source = blankBlock (parse source).topLevelNames ++ ("\n\n" ++ source) := by
  rw [scaffold, hblock, ← String.append_assoc]
  dsimp only
  split
  · next hnil => exact absurd hnil hnames
  · rfl

/-- A second scaffold adds nothing. -/
theorem scaffold_scaffold (source : String) : scaffold (scaffold source) = scaffold source := by
  by_cases hblock : Defaults.Block.find? source.toList = none
  · by_cases hnames : (parse source).topLevelNames = []
    · have hsame : scaffold source = source := by simp [scaffold, hblock, hnames]
      rw [hsame, hsame]
    · rw [scaffold_of_names source hblock hnames]
      exact scaffold_of_find?_ne_none _ (Defaults.find?_blankBlock_ne_none _ _)
  · have hsame := scaffold_of_find?_ne_none source hblock
    rw [hsame, hsame]

/-- A scaffold is read back exactly if all names in it are writable. -/
theorem extract_scaffold_iff (source : String)
    (hblock : Defaults.Block.find? source.toList = none)
    (hnames : (parse source).topLevelNames ≠ []) :
    Defaults.extract (scaffold source) =
        ((parse source).topLevelNames.map fun name => (name, ""), "\n\n" ++ source) ↔
      ∀ name ∈ (parse source).topLevelNames, Defaults.IsWritable name := by
  rw [scaffold_of_names source hblock hnames]
  exact Defaults.extract_blankBlock_iff _ _ (nodup_topLevelNames source) fun name hname =>
    ⟨ne_empty_of_mem_topLevelNames source name hname, trim_of_mem_topLevelNames source name hname⟩

/-- **A scaffold is read back where its names can be written.** Let a template have no complete
defaults block, but top-level names. With a scaffold, its defaults are those names in the order of
first occurrence, each with a blank text, and its body is the template behind two line feeds,
exactly if no name has a colon, begins with the sign of a comment, goes over the end of a line or
has the closing marker in it. And whatever a template is, a second scaffold adds nothing. -/
theorem scaffold_read_back (source : String) :
    (Defaults.Block.find? source.toList = none → (parse source).topLevelNames ≠ [] →
      (Defaults.extract (scaffold source) =
          ((parse source).topLevelNames.map fun name => (name, ""), "\n\n" ++ source) ↔
        ∀ name ∈ (parse source).topLevelNames, Defaults.IsWritable name)) ∧
    scaffold (scaffold source) = scaffold source :=
  ⟨extract_scaffold_iff source, scaffold_scaffold source⟩

/-- Names with blanks, quotes and signs of a comment in them, one after an opening marker. -/
theorem scaffold_read_back_odd_names :
    let source := "\x7b% defaults %\x7d\x7b\x7b a \"#1\" \x7d\x7d\x7b\x7bb.#\x7d\x7d"
    Defaults.Block.find? source.toList = none ∧
      (parse source).topLevelNames = ["a \"#1\"", "b.#"] ∧
      (∀ name ∈ (parse source).topLevelNames, Defaults.IsWritable name) ∧
      Defaults.extract (scaffold source) = ([("a \"#1\"", ""), ("b.#", "")], "\n\n" ++ source) := by
  intro source
  have hblock : Defaults.Block.find? source.toList = none := by decide +kernel
  have hextract : Defaults.extract source = ([], source) := by
    rw [Defaults.extract, hblock]
  have htokens : (tokenize source).tokens = [
      ⟨⟨.directive, "defaults", "\x7b% defaults %\x7d"⟩, ⟨0, 1, 1⟩⟩,
      ⟨⟨.placeholder, "a \"#1\"", "\x7b\x7b a \"#1\" \x7d\x7d"⟩, ⟨14, 1, 15⟩⟩,
      ⟨⟨.placeholder, "b.#", "\x7b\x7bb.#\x7d\x7d"⟩, ⟨26, 1, 27⟩⟩] := by decide +kernel
  have hnames : (parse source).topLevelNames = ["a \"#1\"", "b.#"] := by
    rw [parse_of_extract source source [] hextract, Outline.ofText, htokens]
    decide
  have hwritable : ∀ name ∈ (parse source).topLevelNames, Defaults.IsWritable name := by
    rw [hnames]
    decide
  have hback := ((scaffold_read_back source).1 hblock (by rw [hnames]; decide)).2 hwritable
  rw [hnames] at hback
  exact ⟨hblock, hnames, hwritable, hback⟩

/-- A name with a colon is read as a shorter one and a text: what should be blank has the text `b:`,
and the name itself has no default. -/
theorem extract_scaffold_colon :
    let source := "\x7b\x7ba\x7d\x7d\x7b\x7ba:b\x7d\x7d"
    Defaults.Block.find? source.toList = none ∧ (parse source).topLevelNames = ["a", "a:b"] ∧
      Defaults.extract (scaffold source) = ([("a", "b:")], "\n\n" ++ source) ∧
      Defaults.extract (scaffold source) ≠
        ((parse source).topLevelNames.map fun name => (name, ""), "\n\n" ++ source) := by
  intro source
  have hblock : Defaults.Block.find? source.toList = none := by decide +kernel
  have hextract : Defaults.extract source = ([], source) := by
    rw [Defaults.extract, hblock]
  have htokens : (tokenize source).tokens = [
      ⟨⟨.placeholder, "a", "\x7b\x7ba\x7d\x7d"⟩, ⟨0, 1, 1⟩⟩,
      ⟨⟨.placeholder, "a:b", "\x7b\x7ba:b\x7d\x7d"⟩, ⟨5, 1, 6⟩⟩] := by decide +kernel
  have hnames : (parse source).topLevelNames = ["a", "a:b"] := by
    rw [parse_of_extract source source [] hextract, Outline.ofText, htokens]
    decide
  have hread : Defaults.extract (scaffold source) = ([("a", "b:")], "\n\n" ++ source) := by
    rw [scaffold_of_names source hblock (by rw [hnames]; decide), hnames]
    decide +kernel
  refine ⟨hblock, hnames, hread, ?_⟩
  rw [hread, hnames]
  simp

end Stencil.Template
