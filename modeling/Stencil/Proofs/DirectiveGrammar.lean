import Stencil.Proofs.DirectiveReading

/-!
# The grammar of directives

A directive is read character by character from the start of its content, but what it is can be told
from the words of the content alone, and for the head of a loop from the first character too, which
may not be a blank. So the blanks between the words of a loop are of no account, and the head of a
loop that is written anew from its two names is the same.

## Key results

- `classify_eq_some_iff`: which directive a content is, by its words.
- `classify_of_words`: the blanks between the words of a loop do not matter.
- `classify_grammar`: the grammar as a whole.
-/

namespace Stencil.Template.Directive

open Stencil.Text

/-- The content is this directive, by its words. The head of a loop is `for item in collection` with
two names, and has no blank before it. The head of a conditional is `if` and at least one other
word, and its condition is what stands behind the first word, trimmed. The word that ends a block
comes first, whatever stands behind it. -/
def Reads (s : List Char) : Directive → Prop
  | .opening (.loop item collection) =>
    (∀ c ∈ s.head?, isBlank c = false) ∧
      words s = ["for".toList, item.toList, "in".toList, collection.toList] ∧
      (∀ c ∈ item.toList, isWord c = true) ∧ ∀ c ∈ collection.toList, isWord c = true
  | .opening (.conditional e) =>
    2 ≤ (words s).length ∧ (words s).head? = some "if".toList ∧
      ∃ ws rest, IsBlanks ws ∧ s = ws ++ ("if".toList ++ rest) ∧ e.toList = trim rest
  | .closing kind => (words s).head? = some kind.closing.toList

/-! ## Contents by their first word -/

/-- A content of blanks is no directive. -/
theorem classify_of_isBlanks (content : String) (h : IsBlanks content.toList) :
    classify content = none := by
  rw [classify, (trimStart_eq_nil_iff content.toList).2 h]
  rfl

/-- The head of a loop is read if its words are those of one, with no blank before them. -/
theorem readLoop?_eq_loop_iff (s : List Char) (item collection : String) :
    readLoop? s = some (.loop item collection) ↔
      Reads s (.opening (.loop item collection)) := by
  rw [readLoop?_eq_some_iff]
  constructor
  · rintro ⟨name, names, t, hname, hnames, ht, rfl, heq⟩
    cases heq
    have hfor : IsOneWord ['f', 'o', 'r'] := by decide
    have hhead := hfor.head? t
    simp only [Reads, String.toList_ofList]
    exact ⟨hhead, (words_eq_cons_of_head? _ _ _ hhead).2 ⟨t, hfor, ht, rfl⟩, hname.isWord,
      hnames.isWord⟩
  · rintro ⟨hhead, hwords, hitem, hcollection⟩
    obtain ⟨t, -, ht, hs⟩ := (words_eq_cons_of_head? _ _ _ hhead).1 hwords
    have hword := ht.isOneWord
    refine ⟨item.toList, collection.toList, t, ⟨(hword _ (by simp)).ne_nil, hitem⟩,
      ⟨(hword _ (by simp)).ne_nil, hcollection⟩, ht, hs, ?_⟩
    rw [String.ofList_toList, String.ofList_toList]

/-- The head of a conditional is read if `if` is the first word, but not the only one. -/
theorem reads_conditional_iff (ws t : List Char) (e : String) (hws : IsBlanks ws)
    (ht : ∀ c ∈ t.head?, isBlank c = true) :
    Reads (ws ++ ("if".toList ++ t)) (.opening (.conditional e)) ↔
      ¬ IsBlanks t ∧ e = String.ofList (trim t) := by
  have hif : IsOneWord "if".toList := by decide
  have hwords : words (ws ++ ("if".toList ++ t)) = "if".toList :: words t := by
    rw [words_blanks_append ws _ hws, words_append _ t hif ht]
  have htext : e = String.ofList (trim t) ↔ e.toList = trim t := by
    rw [← String.toList_inj, String.toList_ofList]
  simp only [Reads, hwords, ← words_eq_nil_iff t, htext]
  constructor
  · rintro ⟨hlength, -, ws', rest, hws', hs, he⟩
    refine ⟨fun hnil => ?_, ?_⟩
    · rw [hnil] at hlength
      exact absurd hlength (by decide)
    · rwa [append_word_cancel ws ws' _ t rest hws hws' hif hs]
  · rintro ⟨hne, he⟩
    refine ⟨?_, rfl, ws, t, hws, rfl, he⟩
    have := List.length_pos_iff.2 hne
    simp only [List.length_cons]
    omega

/-! ## All contents -/

/-- The word that a directive begins with. -/
def keyword : Directive → String
  | .opening head => head.kind.opening
  | .closing kind => kind.closing

/-- The first word of a content tells which directive it may be. -/
theorem head?_words_of_reads (s : List Char) (d : Directive) (h : Reads s d) :
    (words s).head? = some d.keyword.toList := by
  cases d with
  | opening head =>
    cases head with
    | loop item collection => exact congrArg List.head? h.2.1
    | conditional e => exact h.2.1
  | closing kind => exact h

theorem reads_of_classify (content : String) (d : Directive) (h : classify content = some d) :
    Reads content.toList d := by
  obtain hblank | ⟨ws, w, t, hws, hw, ht, hs⟩ := isBlanks_or_exists_word content.toList
  · rw [classify_of_isBlanks content hblank] at h
    cases h
  · have hhead : (words content.toList).head? = some w := by
      rw [hs, words_blanks_append ws _ hws, words_append w t hw ht]
      rfl
    have hclosing : ∀ kind : BlockKind, String.ofList w = kind.closing →
        Reads content.toList (.closing kind) := by
      intro kind hend
      rw [Reads, hhead, ← hend, String.toList_ofList]
    rw [classify_eq content ws w t hws hw ht hs] at h
    -- the first word decides
    split at h
    · obtain ⟨head, hread, rfl⟩ := Option.map_eq_some_iff.1 h
      obtain ⟨item, collection, -, -, -, -, -, rfl⟩ := (readLoop?_eq_some_iff _ _).1 hread
      exact (readLoop?_eq_loop_iff _ _ _).1 hread
    · next hif =>
      split at h
      · cases h
      · next hne =>
        cases h
        obtain rfl : w = "if".toList := by rw [← hif, String.toList_ofList]
        rw [hs, reads_conditional_iff ws t _ hws ht, ← trim_eq_nil_iff]
        exact ⟨fun hnil => hne (List.isEmpty_iff.2 hnil), rfl⟩
    · next hend =>
      cases h
      exact hclosing .loop hend
    · next hend =>
      cases h
      exact hclosing .conditional hend
    · cases h

theorem classify_of_reads (content : String) (d : Directive) (h : Reads content.toList d) :
    classify content = some d := by
  have hkeyword := head?_words_of_reads _ d h
  obtain hblank | ⟨ws, w, t, hws, hw, ht, hs⟩ := isBlanks_or_exists_word content.toList
  · rw [words_of_isBlanks _ hblank] at hkeyword
    cases hkeyword
  · have hwords : words content.toList = w :: words t := by
      rw [hs, words_blanks_append ws _ hws, words_append w t hw ht]
    rw [hwords, List.head?_cons, Option.some_inj] at hkeyword
    subst hkeyword
    rw [classify_eq content ws _ t hws hw ht hs, String.ofList_toList]
    cases d with
    | opening head =>
      cases head with
      | loop item collection =>
        exact congrArg (Option.map opening) ((readLoop?_eq_loop_iff _ _ _).2 h)
      | conditional e =>
        rw [hs] at h
        obtain ⟨hne, rfl⟩ := (reads_conditional_iff ws t e hws ht).1 h
        rw [← trim_eq_nil_iff, ← List.isEmpty_iff] at hne
        exact if_neg hne
    | closing kind => cases kind <;> rfl

/-- A content is a directive exactly if the grammar says so. -/
theorem classify_eq_some_iff (content : String) (d : Directive) :
    classify content = some d ↔ Reads content.toList d :=
  ⟨reads_of_classify content d, classify_of_reads content d⟩

/-- Contents that begin with the word `for`, and with no blank before it, are the same directive if
they have the same words. -/
theorem classify_of_words (content other : String)
    (hcontent : ∀ c ∈ content.toList.head?, isBlank c = false)
    (hother : ∀ c ∈ other.toList.head?, isBlank c = false)
    (hwords : words other.toList = words content.toList)
    (hfor : (words content.toList).head? = some "for".toList) :
    classify other = classify content := by
  apply Option.ext
  intro d
  rw [classify_eq_some_iff, classify_eq_some_iff]
  cases d with
  | opening head =>
    cases head with
    | loop item collection =>
      simp only [Reads, hwords]
      exact and_congr_left fun _ => iff_of_true hother hcontent
    | conditional e =>
      -- the first word is another one
      have hne : ¬ some "for".toList = some "if".toList := by decide
      simp only [Reads, hwords, hfor]
      exact iff_of_false (fun h => hne h.2.1) (fun h => hne h.2.1)
  | closing kind => simp only [Reads, hwords]

/-- The head of a loop, written with single blanks, is read as that head. -/
theorem classify_printed (item collection : String) (hitem : IsName item.toList)
    (hcollection : IsName collection.toList) :
    classify ("for " ++ item ++ " in " ++ collection) =
      some (.opening (.loop item collection)) := by
  have hread := readLoop?_names item.toList collection.toList hitem hcollection
  rw [String.ofList_toList, String.ofList_toList, readLoop?_eq_loop_iff] at hread
  apply classify_of_reads
  simpa using hread

/-- **The grammar of directives.** A content is a directive exactly if its words say so, and else it
is none. How the words behind a `for` are set apart is of no account, and the head of a loop that is
written anew is the same. -/
theorem classify_grammar (content : String) :
    (∀ d, classify content = some d ↔ Reads content.toList d) ∧
      (classify content = none ↔ ∀ d, ¬ Reads content.toList d) ∧
      (∀ other : String, (∀ c ∈ content.toList.head?, isBlank c = false) →
        (∀ c ∈ other.toList.head?, isBlank c = false) →
        words other.toList = words content.toList →
        (words content.toList).head? = some "for".toList → classify other = classify content) ∧
      ∀ item collection, classify content = some (.opening (.loop item collection)) →
        classify ("for " ++ item ++ " in " ++ collection) =
          some (.opening (.loop item collection)) := by
  refine ⟨classify_eq_some_iff content, ?_, fun other => classify_of_words content other, ?_⟩
  · simp only [← classify_eq_some_iff, Option.eq_none_iff_forall_ne_some, ne_eq]
  · intro item collection h
    obtain ⟨hitem, hcollection⟩ := isName_of_classify content item collection h
    exact classify_printed item collection hitem hcollection

/-- A blank before a loop keeps it from being read, but not one before a conditional. -/
example : classify " for a in xs" = none ∧
    classify " if a" = some (.opening (.conditional "a")) := by decide

/-- The head of a loop with blanks of many kinds in it and behind it, and names beyond ASCII. -/
theorem classify_grammar_odd_blanks :
    let content := "for\u3000é²\n in\u2028\t_x\u001c\n"
    let other := "for é² in _x"
    (classify content = some (.opening (.loop "é²" "_x")) ∧
      (∀ c ∈ content.toList.head?, isBlank c = false) ∧
      (∀ c ∈ other.toList.head?, isBlank c = false) ∧
      words other.toList = words content.toList ∧
      (words content.toList).head? = some "for".toList) ∧
    classify other = classify content ∧
      classify ("for " ++ "é²" ++ " in " ++ "_x") = some (.opening (.loop "é²" "_x")) := by
  intro content other
  obtain ⟨-, -, hwords, hprinted⟩ := classify_grammar content
  have hread : classify content = some (.opening (.loop "é²" "_x")) := by decide +kernel
  have hfirst : ∀ c ∈ content.toList.head?, isBlank c = false := by
    simp [content, show isBlank 'f' = false by decide]
  have hfirst' : ∀ c ∈ other.toList.head?, isBlank c = false := by
    simp [other, show isBlank 'f' = false by decide]
  have hsame : words other.toList = words content.toList := by decide +kernel
  have hfor : (words content.toList).head? = some "for".toList := by decide +kernel
  exact ⟨⟨hread, hfirst, hfirst', hsame, hfor⟩, hwords other hfirst hfirst' hsame hfor,
    hprinted "é²" "_x" hread⟩

end Stencil.Template.Directive
