import Mathlib.Logic.ExistsUnique
import Stencil.Proofs.Occurrence
import Stencil.Template.Defaults

/-!
# Where a template is cut

A defaults block reaches from the first opening marker of a template to the first closing marker
from there on. A template with a block is put together from three parts around the two markers in
just one way (`Block.Cuts`): the opening marker is not in the part before it, nor the closing marker
in the part between them. No marker goes over the end of a part, since both begin with a brace and
have no other one of the kind. So the parts of any such template are found again.

## Key results

- `firstAt_of_find?`: where a block begins and ends, by first occurrences.
- `find?_eq_some_iff`: the block of a template is what it is put together from.
- `find?_eq_none_iff`: the templates without a block.
- `extract_marked`: what is extracted of a template.
-/

namespace Stencil.Template.Defaults

open Stencil.Text

/-! ## The two markers -/

theorem openingMarker_ne_nil : openingMarker ≠ [] := by decide

theorem closingMarker_ne_nil : closingMarker ≠ [] := by decide

theorem cut?_openingMarker_iff (s a b : List Char) :
    cut? openingMarker s = some (a, b) ↔ s = a ++ (openingMarker ++ b) ∧ ¬ openingMarker <:+: a :=
  cut?_eq_some_iff '{' "% defaults %\x7d".toList s a b (by decide)

theorem cut?_closingMarker_iff (s a b : List Char) :
    cut? closingMarker s = some (a, b) ↔ s = a ++ (closingMarker ++ b) ∧ ¬ closingMarker <:+: a :=
  cut?_eq_some_iff '{' "% enddefaults %\x7d".toList s a b (by decide)

/-- No closing marker begins within an opening one, so it does not matter whether it is looked for
behind the opening marker or from its start. -/
theorem cut?_closingMarker_behind (s : List Char) :
    cut? closingMarker (openingMarker ++ s) =
      (cut? closingMarker s).map fun (a, b) => (openingMarker ++ a, b) := by
  have hopening : openingMarker = '{' :: "% defaults %\x7d".toList := rfl
  have hclosing : closingMarker = '{' :: "% enddefaults %\x7d".toList := rfl
  have hfirst : afterPrefix? closingMarker (openingMarker ++ s) = none := by
    rw [afterPrefix?_eq_none_iff, hopening, hclosing]
    simp
  have htail := cut?_append_of_not_mem '{' "% enddefaults %\x7d".toList "% defaults %\x7d".toList s
    (by decide)
  rw [← hclosing] at htail
  rw [hopening, List.cons_append] at hfirst ⊢
  rw [cut?, hfirst, htail]
  simp [Option.map_map, Function.comp_def]

/-! ## The block of a template -/

/-- The template is put together from the parts of the block around the two markers, and neither
marker stands in the part before it. -/
structure Block.Cuts (b : Block) (template : List Char) : Prop where
  eq_append : template = b.before ++ (openingMarker ++ (b.inner ++ (closingMarker ++ b.after)))
  opening : ¬ openingMarker <:+: b.before
  closing : ¬ closingMarker <:+: b.inner

/-- The block of a template is what it is put together from. -/
theorem find?_eq_some_iff (template : List Char) (b : Block) :
    Block.find? template = some b ↔ b.Cuts template := by
  constructor
  · intro h
    unfold Block.find? at h
    obtain ⟨⟨before, rest⟩, hopening, h⟩ := Option.bind_eq_some_iff.1 h
    obtain ⟨⟨inner, after⟩, hclosing, h⟩ := Option.bind_eq_some_iff.1 h
    cases h
    obtain ⟨htemplate, hbefore⟩ := (cut?_openingMarker_iff _ _ _).1 hopening
    obtain ⟨hrest, hinner⟩ := (cut?_closingMarker_iff _ _ _).1 hclosing
    exact ⟨by rw [htemplate, hrest], hbefore, hinner⟩
  · intro h
    have hopening := (cut?_openingMarker_iff _ _ _).2 ⟨h.eq_append, h.opening⟩
    have hclosing := (cut?_closingMarker_iff (b.inner ++ (closingMarker ++ b.after)) _ _).2
      ⟨rfl, h.closing⟩
    simp [Block.find?, hopening, hclosing]

/-- A template has no block exactly if no closing marker follows its first opening one. -/
theorem find?_eq_none_iff (template : List Char) :
    Block.find? template = none ↔ ∀ before rest, template = before ++ (openingMarker ++ rest) →
      ¬ openingMarker <:+: before → ¬ closingMarker <:+: rest := by
  constructor
  · intro h before rest htemplate hbefore hclosing
    obtain ⟨⟨inner, after⟩, hcut⟩ :=
      Option.ne_none_iff_exists'.1 fun hnone => (cut?_eq_none_iff _ _).1 hnone hclosing
    obtain ⟨hrest, hinner⟩ := (cut?_closingMarker_iff _ _ _).1 hcut
    have hcuts : Block.Cuts ⟨before, inner, after⟩ template :=
      ⟨by rw [htemplate, hrest], hbefore, hinner⟩
    rw [(find?_eq_some_iff _ _).2 hcuts] at h
    cases h
  · intro h
    cases hfind : Block.find? template with
    | none => rfl
    | some b =>
      have hcuts := (find?_eq_some_iff template b).1 hfind
      exact absurd ⟨b.inner, b.after, List.append_assoc _ _ _⟩
        (h b.before _ hcuts.eq_append hcuts.opening)

/-- A block begins where an opening marker stands for the first time, and ends with the first
closing marker from there on. -/
theorem firstAt_of_find? (template : List Char) (b : Block) (h : Block.find? template = some b) :
    FirstAt openingMarker template 0 b.start ∧
      ∃ i, FirstAt closingMarker template b.start i ∧ b.stop = i + closingMarker.length := by
  have hcuts := (find?_eq_some_iff template b).1 h
  constructor
  · have hopening := (cut?_openingMarker_iff _ _ _).2 ⟨hcuts.eq_append, hcuts.opening⟩
    simpa [Block.start] using firstAt_of_cut? openingMarker [] template _ _ hopening
  · have hclosing : cut? closingMarker (openingMarker ++ (b.inner ++ (closingMarker ++ b.after))) =
        some (openingMarker ++ b.inner, b.after) := by
      rw [cut?_closingMarker_behind, (cut?_closingMarker_iff _ _ _).2 ⟨rfl, hcuts.closing⟩]
      rfl
    have hfirst := firstAt_of_cut? closingMarker b.before _ _ _ hclosing
    rw [← hcuts.eq_append] at hfirst
    refine ⟨_, hfirst, ?_⟩
    simp only [Block.stop, List.length_append]
    omega

/-! ## What is extracted -/

/-- **A block is cut out exactly.** Let a template be put together from three parts around the two
markers, with no opening marker in the first part and no closing marker in the second one. Then the
second part is read as the defaults, the two others are the body, and the block is found from the
end of the first part to the start of the last one. A template with a block is put together like
that in just one way; any other one is left as it is. -/
theorem extract_marked :
    (∀ before inner after : String,
      ¬ openingMarker <:+: before.toList → ¬ closingMarker <:+: inner.toList →
      let marked := before ++ String.ofList openingMarker ++ inner ++ String.ofList closingMarker
      extract (marked ++ after) = (ofBody inner.toList, before ++ after) ∧
        ∃ b, Block.find? (marked ++ after).toList = some b ∧
          b.start = before.length ∧ b.stop = marked.length) ∧
    (∀ template : String, Block.find? template.toList ≠ none →
      ∃! b : Block, b.Cuts template.toList) ∧
    ∀ template : String, Block.find? template.toList = none →
      extract template = ([], template) := by
  refine ⟨fun before inner after hbefore hinner => ?_, fun template h => ?_, fun template h => ?_⟩
  · intro marked
    have hfind : Block.find? (marked ++ after).toList =
        some ⟨before.toList, inner.toList, after.toList⟩ := by
      rw [find?_eq_some_iff]
      exact ⟨by simp [marked], hbefore, hinner⟩
    constructor
    · rw [extract, hfind]
      simp
    · refine ⟨_, hfind, String.length_toList, ?_⟩
      simp [Block.stop, marked, String.length_toList]
  · obtain ⟨b, hb⟩ := Option.ne_none_iff_exists'.1 h
    refine ⟨b, (find?_eq_some_iff _ b).1 hb, fun other hother => ?_⟩
    have hsame := (find?_eq_some_iff _ other).2 hother
    rw [hb] at hsame
    exact (Option.some.inj hsame).symm
  · rw [extract, h]

/-- Markers the wrong way round and the start of one before a block, an opening marker in it, and a
whole block behind it; and a template that ends before its block does. -/
theorem extract_marked_repeated :
    let closing := "\x7b% enddefaults %\x7d"
    let before := closing ++ "\x7b% defaults %"
    let inner := "a: 1\n\x7b% defaults %\x7d"
    let after := "\x7b% defaults %\x7db: 2" ++ closing
    let template := before ++ "\x7b% defaults %\x7d" ++ inner ++ closing ++ after
    let unclosed := before ++ "\x7b% defaults %\x7d" ++ inner
    ¬ openingMarker <:+: before.toList ∧ ¬ closingMarker <:+: inner.toList ∧
      extract template = ([("a", "1")], before ++ after) ∧
      (Block.find? template.toList ≠ none ∧ ∃! b : Block, b.Cuts template.toList) ∧
      Block.find? unclosed.toList = none ∧ extract unclosed = ([], unclosed) := by
  intro closing before inner after template unclosed
  have hbefore : ¬ openingMarker <:+: before.toList :=
    (cut?_eq_none_iff openingMarker _).1 (by decide +kernel)
  have hinner : ¬ closingMarker <:+: inner.toList :=
    (cut?_eq_none_iff closingMarker _).1 (by decide +kernel)
  obtain ⟨hextract, b, hb, -, -⟩ := extract_marked.1 before inner after hbefore hinner
  have hbody : ofBody inner.toList = [("a", "1")] := by decide +kernel
  have hsome : Block.find? template.toList ≠ none := by
    intro hnone
    exact absurd (hb.symm.trans hnone) (Option.some_ne_none b)
  have hnone : Block.find? unclosed.toList = none := by decide +kernel
  exact ⟨hbefore, hinner, hextract.trans (by rw [hbody]),
    ⟨hsome, extract_marked.2.1 template hsome⟩, hnone, extract_marked.2.2 unclosed hnone⟩

end Stencil.Template.Defaults
