import Stencil.Proofs.DistinctNames
import Stencil.Proofs.LineReading
import Stencil.Proofs.Occurrence
import Stencil.Proofs.Trimming
import Stencil.Template.Defaults

/-!
# Defaults that can be written down

What the body of a defaults block sets is always a mapping of a certain kind: its names are trimmed,
have no colon and begin no comment, and neither a name nor a text goes over the end of a line. Every
such mapping can be written down as a body, one line for each name with its text in quotes, and is
read back as it was. The quotes keep the blanks at the ends of a text, only the outermost ones are
taken away, and the colon behind the name is the first one of its line.

## Key results

- `settable_of_entry?_read`: what a line can set.
- `entry?_read_of_trim`: what a line with a name and a colon sets.
- `entry?_read_quotedLine`: a written line sets what it was written for.
- `ofBody_storable_and_toBody`: what a body sets can be written down, and is read back.
-/

namespace Stencil

open Stencil.Text

namespace Template.Defaults

/-! ## What can be written down -/

/-- A line can set the name to the text. -/
structure Settable (name value : String) : Prop where
  ne_empty : name ≠ ""
  trim_name : trim name.toList = name.toList
  no_colon : ':' ∉ name.toList
  no_comment : name.toList.head? ≠ some '#'
  unbroken_name : IsUnbroken name.toList
  unbroken_value : IsUnbroken value.toList

/-- Lines can set all names to their texts, and no name comes twice. -/
structure IsStorable (m : Defaults) : Prop where
  nodup : m.keys.Nodup
  settable : ∀ name value, (name, value) ∈ m → Settable name value

instance (name value : String) : Decidable (Settable name value) :=
  decidable_of_iff (name ≠ "" ∧ trim name.toList = name.toList ∧ ':' ∉ name.toList ∧
      name.toList.head? ≠ some '#' ∧ IsUnbroken name.toList ∧ IsUnbroken value.toList)
    ⟨fun ⟨h₁, h₂, h₃, h₄, h₅, h₆⟩ => ⟨h₁, h₂, h₃, h₄, h₅, h₆⟩,
      fun ⟨h₁, h₂, h₃, h₄, h₅, h₆⟩ => ⟨h₁, h₂, h₃, h₄, h₅, h₆⟩⟩

instance (m : Defaults) : Decidable m.IsStorable :=
  decidable_of_iff (m.keys.Nodup ∧ ∀ e ∈ m, Settable e.1 e.2)
    ⟨fun ⟨hnodup, h⟩ => ⟨hnodup, fun name value => h (name, value)⟩,
      fun ⟨hnodup, h⟩ => ⟨hnodup, fun e => h e.1 e.2⟩⟩

/-- The line that sets a name to a text, with the text in quotes. -/
def quotedLine (name value : String) : List Char :=
  name.toList ++ ':' :: ' ' :: '"' :: (value.toList ++ ['"'])

/-- The body that sets the names to their texts. -/
def toBody (m : Defaults) : List Char :=
  List.intercalate ['\n'] (m.map fun (name, value) => quotedLine name value)

example : toBody [("a", "1"), ("b c", "")] = "a: \"1\"\nb c: \"\"".toList := by decide

/-! ## What a line sets -/

theorem unquote_sublist (s : List Char) : (unquote s).Sublist s := by
  unfold unquote
  split
  · split
    · exact (List.dropLast_sublist _).trans (List.sublist_cons_self _ _)
    · exact List.Sublist.refl _
  · exact List.Sublist.refl _

/-- What a line says that sets something: a name before the first colon, and a text behind it. -/
theorem exists_of_entry?_read (line : List Char) (name value : String)
    (h : Line.entry? (Line.read line) = some (name, value)) :
    ∃ front back, trim line = front ++ ':' :: back ∧ front ≠ [] ∧ ':' ∉ front ∧
      front.head? ≠ some '#' ∧ name = String.ofList (trim front) ∧
      value = String.ofList (unquote (trim back)) := by
  unfold Line.read at h
  split at h
  · cases h
  · cases h
  · next hcomment =>
    split at h
    · cases h
    · cases h
    · next front back hne hcut =>
      cases h
      have hline : trim line = front ++ ':' :: back := by
        rw [eq_append_of_cut? hcut, List.append_assoc]
        rfl
      refine ⟨front, back, hline, hne, not_mem_of_cut? ':' _ front back hcut, ?_, rfl, rfl⟩
      -- a line that begins with the sign of a comment says nothing
      intro hhead
      obtain ⟨rest, rfl⟩ := List.head?_eq_some_iff.1 hhead
      exact hcomment _ hline

/-- What a line sets can be set by a line. -/
theorem settable_of_entry?_read (line : List Char) (hline : IsUnbroken line) (name value : String)
    (h : Line.entry? (Line.read line) = some (name, value)) : Settable name value := by
  obtain ⟨front, back, htrim, hne, hcolon, hcomment, rfl, rfl⟩ :=
    exists_of_entry?_read line name value h
  have hunbroken : IsUnbroken (front ++ ':' :: back) := htrim ▸ hline.sublist (trim_sublist line)
  rw [isUnbroken_append, isUnbroken_cons] at hunbroken
  obtain ⟨hfront, -, hback⟩ := hunbroken
  -- the line does not begin with a blank, and nor does what is before the colon
  have hhead : (trim front).head? = front.head? := by
    refine head?_trim_of_head? front fun c hc => head?_trim line c ?_
    rw [htrim, List.head?_append, Option.mem_def.1 hc]
    rfl
  have hname : trim front ≠ [] := by
    intro hempty
    rw [hempty, List.head?_nil] at hhead
    exact hne (List.head?_eq_none_iff.1 hhead.symm)
  have hvalue := hback.sublist ((unquote_sublist _).trans (trim_sublist back))
  constructor
  · exact fun hempty => hname (String.ofList_eq_empty_iff.1 hempty)
  · rw [String.toList_ofList, trim_trim]
  · rw [String.toList_ofList]
    exact fun hmem => hcolon ((trim_sublist front).mem hmem)
  · rw [String.toList_ofList, hhead]
    exact hcomment
  · rw [String.toList_ofList]
    exact hfront.sublist (trim_sublist front)
  · rw [String.toList_ofList]
    exact hvalue

/-! ## What a written line sets -/

theorem unquote_quoted (s : List Char) : unquote ('"' :: (s ++ ['"'])) = s := by
  obtain ⟨d, rest, hd⟩ := List.exists_cons_of_ne_nil (List.append_ne_nil_of_right_ne_nil s
    (List.cons_ne_nil '"' []))
  rw [hd, unquote, ← hd, List.getLast?_concat, List.dropLast_concat]
  rfl

theorem isUnbroken_quotedLine (name value : String) (h : Settable name value) :
    IsUnbroken (quotedLine name value) := by
  rw [quotedLine, isUnbroken_append, isUnbroken_cons, isUnbroken_cons, isUnbroken_cons,
    isUnbroken_append]
  exact ⟨h.unbroken_name, by decide, by decide, by decide, h.unbroken_value, by decide⟩

/-- A line with a name, a colon and something that ends with no blank has nothing to trim. -/
theorem trim_line (name value : String) (h : Settable name value) (rest : List Char)
    (hrest : ∀ c ∈ (':' :: rest).getLast?, isBlank c = false) :
    trim (name.toList ++ ':' :: rest) = name.toList ++ ':' :: rest := by
  apply trim_of_ends
  · intro c hc
    cases hname : name.toList with
    | nil => exact absurd (String.toList_eq_nil_iff.1 hname) h.ne_empty
    | cons d s =>
      rw [hname] at hc
      refine head?_trim name.toList c ?_
      rw [h.trim_name, hname]
      exact hc
  · rwa [List.getLast?_append_of_ne_nil _ (List.cons_ne_nil ':' rest)]

/-- A line with a name and a colon sets the name to what is behind the colon. -/
theorem entry?_read_of_trim (line rest : List Char) (name value : String) (h : Settable name value)
    (hline : trim line = name.toList ++ ':' :: rest) :
    Line.entry? (Line.read line) = some (name, String.ofList (unquote (trim rest))) := by
  have hcut : cut? [':'] (name.toList ++ ':' :: rest) = some (name.toList, rest) :=
    cut?_of_not_mem ':' [] name.toList rest h.no_colon
  obtain ⟨c, s, hname⟩ := List.exists_cons_of_ne_nil (mt String.toList_eq_nil_iff.1 h.ne_empty)
  unfold Line.read
  rw [hline]
  split
  · next hnil => simp at hnil
  · next hsign =>
    -- the first character is that of the name, which begins no comment
    rw [hname, List.cons_append, List.cons.injEq] at hsign
    exact absurd (by rw [hname, hsign.1]; rfl) h.no_comment
  · rw [hcut]
    split
    · next heq => cases heq
    · next heq =>
      rw [hname] at heq
      cases heq
    · next heq =>
      cases heq
      rw [Line.entry?, h.trim_name, String.ofList_toList]

/-- The line that is written for a name and a text sets the name to the text. -/
theorem entry?_read_quotedLine (name value : String) (h : Settable name value) :
    Line.entry? (Line.read (quotedLine name value)) = some (name, value) := by
  have hlast : ∀ s : List Char, ∀ c ∈ (s ++ ['"']).getLast?, isBlank c = false := by
    intro s c hc
    rw [List.getLast?_concat] at hc
    cases hc
    decide
  have hquoted : trim ('"' :: (value.toList ++ ['"'])) = '"' :: (value.toList ++ ['"']) :=
    trim_of_ends _ (by rintro c ⟨⟩; decide) (hlast ('"' :: value.toList))
  have hvalue : trim (' ' :: '"' :: (value.toList ++ ['"'])) = '"' :: (value.toList ++ ['"']) :=
    (trim_blanks_append [' '] _ (by decide)).trans hquoted
  have hline : trim (quotedLine name value) = quotedLine name value :=
    trim_line name value h _ (hlast (':' :: ' ' :: '"' :: value.toList))
  rw [entry?_read_of_trim _ _ name value h hline, hvalue, unquote_quoted, String.ofList_toList]

/-! ## Whole bodies -/

theorem readLines_toBody (m : Defaults) (h : m.IsStorable) :
    readLines (toBody m) = m.map fun (name, value) => Line.read (quotedLine name value) := by
  have hlines : lines (toBody m) = m.map fun (name, value) => quotedLine name value := by
    refine lines_intercalate _ fun line hline => ?_
    obtain ⟨⟨name, value⟩, hmem, rfl⟩ := List.mem_map.1 hline
    refine ⟨by simp [quotedLine], isUnbroken_quotedLine name value (h.settable name value hmem)⟩
  rw [readLines, hlines, List.map_map]
  rfl

/-- What a body sets can be written down. -/
theorem isStorable_ofBody (body : List Char) : IsStorable (ofBody body) := by
  refine ⟨Entries.nodup_keys_ofPairs _, fun name value hmem => ?_⟩
  have hpair := Entries.mem_of_mem_ofPairs _ _ hmem
  obtain ⟨read, hread, hentry⟩ := List.mem_filterMap.1 hpair
  obtain ⟨line, hline, rfl⟩ := List.mem_map.1 hread
  exact settable_of_entry?_read line (isUnbroken_of_mem_lines body line hline) name value hentry

/-- What can be written down is read back. -/
theorem ofBody_toBody (m : Defaults) (h : m.IsStorable) : ofBody (toBody m) = m := by
  have hentries : (readLines (toBody m)).filterMap Line.entry? = m := by
    rw [readLines_toBody m h, List.filterMap_map]
    exact (List.filterMap_congr fun (name, value) hmem =>
      entry?_read_quotedLine name value (h.settable name value hmem)).trans List.filterMap_some
  rw [ofBody, hentries, Entries.ofPairs_of_nodup m h.nodup]

/-- **Defaults round-trip.** Whatever a body of a defaults block is, what it sets can be written
down; and whatever can be written down is read back from its lines with the same names, texts and
order. -/
theorem ofBody_storable_and_toBody :
    (∀ body : List Char, IsStorable (ofBody body)) ∧
      ∀ m : Defaults, m.IsStorable → ofBody (toBody m) = m :=
  ⟨isStorable_ofBody, ofBody_toBody⟩

/-- A text with blanks at its ends, a colon, quotes and the sign of a comment; and an empty text
under a name in quotes. -/
theorem ofBody_storable_and_toBody_quoted :
    let m : Defaults := [("a b", " it's: \"#1\" "), ("'k'", "")]
    m.IsStorable ∧ ofBody (toBody m) = m := by
  intro m
  have hm : m.IsStorable := by decide
  exact ⟨hm, ofBody_storable_and_toBody.2 m hm⟩

end Template.Defaults

end Stencil
