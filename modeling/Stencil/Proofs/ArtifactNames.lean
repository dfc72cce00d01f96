import Mathlib.Order.Bounds.Defs
import Stencil.Command.Folder
import Stencil.Proofs.DirectiveReading
import Stencil.Proofs.PathReading
import Stencil.Settings

/-!
# Names of saved texts

A text is saved under the word that stands behind the first `hostname` in it, and that is told by
offsets: `hostname` may be a part of a longer word or stand at the end of the text, and then it sets
no name, but the search goes on. What is made of the word leads out of no directory, since all that
parts the names in a path is replaced.

## Key results

- `hostnameHere?_eq_some_iff`: the name that is set at the start of a text.
- `findHostname?_eq_some_iff`, `findHostname?_eq_none_iff`: where the search ends.
- `place_join_of_isPart`: a file whose name is one part is in its directory.
- `filename_follows_hostname`: the name of a text as a whole.
-/

namespace Stencil

/-! ## Names of one part -/

namespace FileName

/-- The text is one part of the name of a file: not empty, without a slash, and not the dots that
stand for a directory. -/
structure IsPart (name : String) : Prop where
  ne_empty : name ≠ ""
  ne_dot : name ≠ "."
  ne_dots : name ≠ ".."
  not_mem_slash : '/' ∉ name.toList

theorem rootOf_of_not_mem (s : List Char) (h : '/' ∉ s) : rootOf s = "" := by
  unfold rootOf
  split
  · exact absurd List.mem_cons_self h
  · exact absurd List.mem_cons_self h
  · exact absurd List.mem_cons_self h
  · rfl

/-- A part is read as the one part of a name. -/
theorem ofText_of_isPart (name : String) (h : IsPart name) : ofText name = ⟨"", [name]⟩ := by
  have hsplit := Text.splitOn_of_not_mem '/' name.toList h.not_mem_slash
  rw [ofText, rootOf_of_not_mem _ h.not_mem_slash, hsplit, List.map_singleton,
    String.ofList_toList]
  simp [h.ne_empty, h.ne_dot]

/-- A file whose name is one part is in the directory that it is put in. -/
theorem place_join_of_isPart (directory : FileName) (name : String) (h : IsPart name) :
    (directory.join (ofText name)).place = directory.place ++ [name] := by
  rw [ofText_of_isPart name h, join, if_pos rfl, place, List.foldl_append]
  show Location.step directory.place name = _
  rw [Location.step, if_neg h.ne_dots]

end FileName

namespace Artifact

open Text

/-! ## The search for a name -/

/-- At the offset `i` stands `hostname`, and behind it a gap and something that is not blank. -/
def SetsNameAt (s : List Char) (i : Nat) : Prop :=
  ∃ gap c rest, IsGap gap ∧ isBlank c = false ∧
    s.drop i = "hostname".toList ++ (gap ++ c :: rest)

/-- At the offset `i` stands `hostname`, and behind it a gap and the whole of the word `name`. -/
def NameAt (s : List Char) (i : Nat) (name : List Char) : Prop :=
  ∃ gap rest, IsGap gap ∧ IsOneWord name ∧ (∀ c ∈ rest.head?, isBlank c = true) ∧
    s.drop i = "hostname".toList ++ (gap ++ (name ++ rest))

theorem wordAfterBlanks?_eq_some_iff (s word : List Char) : wordAfterBlanks? s = some word ↔
    ∃ gap rest, IsGap gap ∧ IsOneWord word ∧ (∀ c ∈ rest.head?, isBlank c = true) ∧
      s = gap ++ (word ++ rest) := by
  simp only [wordAfterBlanks?, Option.bind_eq_bind, Option.bind_eq_some_iff,
    Template.Directive.afterBlanks?_eq_some_iff]
  constructor
  · rintro ⟨r, ⟨gap, hgap, -, rfl⟩, hword⟩
    split at hword
    · cases hword
    · next hne =>
      cases hword
      refine ⟨gap, afterFirstWord r, hgap, isOneWord_firstWord r hne, head?_afterFirstWord r, ?_⟩
      rw [firstWord_append_afterFirstWord]
  · rintro ⟨gap, rest, hgap, hword, hrest, rfl⟩
    refine ⟨word ++ rest, ⟨gap, hgap, hword.head? rest, rfl⟩, ?_⟩
    rw [firstWord_append word rest hword hrest]
    split
    · exact absurd rfl hword.ne_nil
    · rfl

/-- The name that is set at an offset is the whole word. -/
theorem hostnameHere?_eq_some_iff (s : List Char) (i : Nat) (word : List Char) :
    hostnameHere? (s.drop i) = some word ↔ NameAt s i word := by
  simp only [hostnameHere?, Option.bind_eq_some_iff, afterPrefix?_eq_some_iff,
    wordAfterBlanks?_eq_some_iff]
  constructor
  · rintro ⟨r, hs, gap, rest, hgap, hword, hrest, rfl⟩
    exact ⟨gap, rest, hgap, hword, hrest, hs⟩
  · rintro ⟨gap, rest, hgap, hword, hrest, hs⟩
    exact ⟨_, hs, gap, rest, hgap, hword, hrest, rfl⟩

/-- A name is set at an offset if there is a word to be it. -/
theorem setsNameAt_iff (s : List Char) (i : Nat) : SetsNameAt s i ↔ ∃ name, NameAt s i name := by
  constructor
  · rintro ⟨gap, c, rest, hgap, hc, hs⟩
    refine ⟨firstWord (c :: rest), gap, afterFirstWord (c :: rest), hgap,
      isOneWord_firstWord _ (firstWord_ne_nil c rest hc), head?_afterFirstWord _, ?_⟩
    rw [firstWord_append_afterFirstWord]
    exact hs
  · rintro ⟨name, gap, rest, hgap, hname, -, hs⟩
    obtain ⟨c, name, rfl⟩ := List.exists_cons_of_ne_nil hname.ne_nil
    exact ⟨gap, c, name ++ rest, hgap, hname.not_isBlank c List.mem_cons_self, hs⟩

theorem hostnameHere?_eq_none_iff (s : List Char) (i : Nat) :
    hostnameHere? (s.drop i) = none ↔ ¬ SetsNameAt s i := by
  simp only [setsNameAt_iff, ← hostnameHere?_eq_some_iff, ← Option.ne_none_iff_exists', not_not,
    ne_eq]

theorem hostnameHere?_drop_nil (i : Nat) : hostnameHere? (([] : List Char).drop i) = none := by
  rw [List.drop_nil]
  rfl

/-- The search ends at the first offset at which there is a name. -/
theorem findHostname?_eq_some_iff (s word : List Char) : findHostname? s = some word ↔
    ∃ i, hostnameHere? (s.drop i) = some word ∧ ∀ j < i, hostnameHere? (s.drop j) = none := by
  induction s with
  | nil =>
    constructor
    · intro h
      cases h
    · rintro ⟨i, hi, -⟩
      rw [hostnameHere?_drop_nil] at hi
      cases hi
  | cons c s ih =>
    rw [findHostname?]
    cases hhere : hostnameHere? (c :: s) with
    | some found =>
      constructor
      · intro h
        exact ⟨0, hhere.trans h, fun j hj => absurd hj (Nat.not_lt_zero j)⟩
      · rintro ⟨i, hi, hleast⟩
        cases i with
        | zero => exact hhere.symm.trans hi
        | succ i =>
          -- an earlier name would have been found
          cases hhere.symm.trans (hleast 0 (Nat.zero_lt_succ i))
    | none =>
      -- the offsets of the rest are those of the text behind its first character
      rw [ih]
      constructor
      · rintro ⟨i, hi, hleast⟩
        refine ⟨i + 1, hi, fun j hj => ?_⟩
        cases j with
        | zero => exact hhere
        | succ j => exact hleast j (Nat.lt_of_succ_lt_succ hj)
      · rintro ⟨i, hi, hleast⟩
        cases i with
        | zero => cases hhere.symm.trans hi
        | succ i => exact ⟨i, hi, fun j hj => hleast (j + 1) (Nat.succ_lt_succ hj)⟩

/-- The search finds nothing if there is a name at no offset. -/
theorem findHostname?_eq_none_iff (s : List Char) : findHostname? s = none ↔
    ∀ i, hostnameHere? (s.drop i) = none := by
  induction s with
  | nil => exact iff_of_true rfl hostnameHere?_drop_nil
  | cons c s ih =>
    rw [findHostname?, ← Nat.and_forall_add_one]
    cases hhere : hostnameHere? (c :: s) with
    | some found => exact iff_of_false (by simp) (fun h => by cases hhere.symm.trans h.1)
    | none => exact ih.trans (and_iff_right hhere).symm

/-- The name of a text is the one that is set at the least offset at which one is set. -/
theorem hostname?_eq_some_iff (text name : String) : hostname? text = some name ↔
    ∃ i, IsLeast {i | SetsNameAt text.toList i} i ∧ NameAt text.toList i name.toList := by
  have hfind : hostname? text = some name ↔ findHostname? text.toList = some name.toList := by
    rw [hostname?, Option.map_eq_some_iff]
    constructor
    · rintro ⟨word, hword, rfl⟩
      rw [hword, String.toList_ofList]
    · intro h
      exact ⟨name.toList, h, String.ofList_toList⟩
  simp only [hfind, findHostname?_eq_some_iff, hostnameHere?_eq_some_iff,
    hostnameHere?_eq_none_iff]
  constructor
  · rintro ⟨i, hname, hleast⟩
    refine ⟨i, ⟨(setsNameAt_iff _ i).2 ⟨_, hname⟩, fun j hj => ?_⟩, hname⟩
    exact Nat.le_of_not_lt fun hlt => hleast j hlt hj
  · rintro ⟨i, hi, hname⟩
    exact ⟨i, hname, fun j hj hset => Nat.not_le_of_lt hj (hi.2 hset)⟩

theorem hostname?_eq_none_iff (text : String) :
    hostname? text = none ↔ ∀ i, ¬ SetsNameAt text.toList i := by
  simp only [hostname?, Option.map_eq_none_iff, findHostname?_eq_none_iff,
    hostnameHere?_eq_none_iff]

/-! ## Names of files -/

/-- The characters that no name of a saved text has in it. -/
def forbidden : List Char := "\\/:*?\"<>|".toList

theorem isUnsafe_iff (c : Char) : isUnsafe c = true ↔ c ∈ forbidden := List.contains_iff_mem

theorem safe_eq (s : List Char) : safe s = s.map fun c => if c ∈ forbidden then '_' else c := by
  simp only [safe, isUnsafe_iff]

/-- Nothing that is replaced is left. -/
theorem not_mem_forbidden_of_mem_safe (s : List Char) : ∀ c ∈ safe s, c ∉ forbidden := by
  rw [safe_eq]
  intro c hc
  obtain ⟨d, -, rfl⟩ := List.mem_map.1 hc
  split
  · decide
  · assumption

/-- A text with a host name is saved under that and the suffix. -/
theorem filename_of_hostname? (text name defaultName suffix : String)
    (h : hostname? text = some name) :
    filename text defaultName suffix = String.ofList (safe name.toList) ++ suffix := by
  obtain ⟨word, hword, rfl⟩ := Option.map_eq_some_iff.1 h
  rw [filename, hword, String.toList_ofList]

/-- A file of the name is in the directory that it is put in: the name is one part of a path, with
nothing forbidden in it. -/
structure StaysInside (name : String) : Prop where
  isPart : FileName.IsPart name
  not_mem_forbidden : ∀ c ∈ name.toList, c ∉ forbidden
  place_join : ∀ directory : FileName,
    (directory.join (.ofText name)).place = directory.place ++ [name]

/-- A text with something else than dots, and nothing that is forbidden, is such a name. -/
theorem staysInside_of (name : String) (hname : ∀ c ∈ name.toList, c ∉ forbidden)
    (hdot : ∃ c ∈ name.toList, c ≠ '.') : StaysInside name := by
  obtain ⟨c, hc, hne⟩ := hdot
  have hpart : FileName.IsPart name := by
    refine ⟨?_, ?_, ?_, fun hslash => hname '/' hslash (by decide)⟩
    · rintro rfl
      cases hc
    · rintro rfl
      exact hne (by simpa using hc)
    · rintro rfl
      exact hne (by simpa using hc)
  exact ⟨hpart, hname, fun directory => FileName.place_join_of_isPart directory name hpart⟩

/-- **The name of a saved text.** It is the word behind the first `hostname` that a word follows,
with what is forbidden replaced, and the suffix; a text without such a word has no host name. With a
suffix that has nothing forbidden in it, but something else than dots, the file is in the directory
that the text is saved in. -/
theorem filename_follows_hostname (text : String) :
    (∀ name : String, hostname? text = some name ↔
      ∃ i, IsLeast {i | SetsNameAt text.toList i} i ∧ NameAt text.toList i name.toList) ∧
    (hostname? text = none ↔ ∀ i, ¬ SetsNameAt text.toList i) ∧
    ∀ name defaultName suffix : String, hostname? text = some name →
      filename text defaultName suffix = String.ofList
          (name.toList.map fun c => if c ∈ forbidden then '_' else c) ++ suffix ∧
        ((∀ c ∈ suffix.toList, c ∉ forbidden) → (∃ c ∈ suffix.toList, c ≠ '.') →
          StaysInside (filename text defaultName suffix)) := by
  refine ⟨hostname?_eq_some_iff text, hostname?_eq_none_iff text, ?_⟩
  intro name defaultName suffix h
  rw [filename_of_hostname? text name defaultName suffix h, ← safe_eq]
  refine ⟨rfl, fun hsuffix hdot => staysInside_of _ ?_ ?_⟩
  · rw [String.toList_append, String.toList_ofList]
    exact List.forall_mem_append.2 ⟨not_mem_forbidden_of_mem_safe _, hsuffix⟩
  · obtain ⟨c, hc, hne⟩ := hdot
    refine ⟨c, ?_, hne⟩
    rw [String.toList_append]
    exact List.mem_append_right _ hc

/-- A second `hostname` is the name that the first one sets. -/
example : hostname? "hostname\n hostname r1" = some "hostname" := by decide

/-- The first `hostname` goes on with a letter, the second one ends a longer word and stands before
a path, and behind the last one there are only blanks. -/
theorem filename_follows_hostname_path :
    let text := "hostnames x\nno-hostname\u2003\t../a:b*\u0085hostname r2\nhostname \n"
    (hostname? text = some "../a:b*" ∧ (∀ c ∈ ".cfg".toList, c ∉ forbidden) ∧
      (∃ c ∈ ".cfg".toList, c ≠ '.')) ∧
    (∃ i, IsLeast {i | SetsNameAt text.toList i} i ∧ NameAt text.toList i "../a:b*".toList) ∧
    filename text "out.txt" ".cfg" = ".._a_b_.cfg" ∧ StaysInside ".._a_b_.cfg" := by
  intro text
  obtain ⟨hsome, -, hfile⟩ := filename_follows_hostname text
  have hname : hostname? text = some "../a:b*" := by decide +kernel
  have hall : (".cfg".toList.all fun c => !isUnsafe c) = true := by decide
  have hsuffix : ∀ c ∈ ".cfg".toList, c ∉ forbidden := by
    intro c hc
    rw [← isUnsafe_iff]
    simpa using List.all_eq_true.1 hall c hc
  have hdot : ∃ c ∈ ".cfg".toList, c ≠ '.' := ⟨'c', by simp, by decide⟩
  obtain ⟨heq, hinside⟩ := hfile "../a:b*" "out.txt" ".cfg" hname
  have htext : filename text "out.txt" ".cfg" = ".._a_b_.cfg" := by
    rw [heq]
    decide
  rw [htext] at hinside
  exact ⟨⟨hname, hsuffix, hdot⟩, (hsome _).1 hname, htext, hinside hsuffix hdot⟩

end Artifact

end Stencil
