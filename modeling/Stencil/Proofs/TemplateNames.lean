import Mathlib.Data.List.Nodup
import Stencil.Proofs.DirectiveReading
import Stencil.Proofs.TokenTiling
import Stencil.Template.Fields

/-!
# The names in a template

A name that a template mentions is what stands between the braces of a placeholder, without the
blanks around it, and there is something left. Apart from that it may be any text. Each name is
listed once.

## Key results

- `mem_names_iff`, `nodup_names`: the names are those of the placeholders, each once.
- `mem_topLevelNames_iff`: the top-level ones among them.
- `isName_of_mem_loops`: what the items and collections of loops look like.
- `trim_of_mem_topLevelNames`, `ne_empty_of_mem_topLevelNames`: what a name looks like.
- `nodup_topLevelNames`: nor does a top-level name come twice.
-/

namespace Stencil.Template

open Stencil.Text

/-- The top-level names are those that begin with no item of a loop. -/
theorem mem_topLevelNames_iff (t : Template) (name : String) :
    name ∈ t.topLevelNames ↔ name ∈ t.outline.names ∧ firstSegment name ∉ t.outline.items := by
  simp [topLevelNames]

theorem mem_distinct (x : String) (xs : List String) : x ∈ distinct xs ↔ x ∈ xs := by
  induction xs with
  | nil => simp [distinct]
  | cons y ys ih =>
    by_cases h : x = y
    · simp [distinct, h]
    · simp [distinct, h, ih]

theorem nodup_distinct (xs : List String) : (distinct xs).Nodup := by
  induction xs with
  | nil => exact List.nodup_nil
  | cons y ys ih => simp [distinct, ih.filter]

/-- Between the braces of a placeholder stands something, and it is trimmed. -/
theorem value_of_mem_pieces (s : List Char) (p : Piece) (hp : p ∈ pieces s)
    (hshape : p.shape = .placeholder) : p.value ≠ "" ∧ trim p.value.toList = p.value.toList := by
  fun_induction pieces s with
  | case1 => cases hp
  | case2 s piece rest h _ ih =>
    cases hp with
    | tail _ hp => exact ih hp
    | head =>
      have hfits := fitsAt_of_readPiece? [] s rest p h
      simp only [Piece.FitsAt, hshape] at hfits
      obtain ⟨-, ⟨inner, -, hvalue⟩, hne, -⟩ := hfits
      exact ⟨hne, by rw [hvalue, trim_trim]⟩

section

variable (source name : String)

/-- The names of a template are what its placeholders hold. -/
theorem mem_names_iff : name ∈ (parse source).outline.names ↔
    ∃ p ∈ pieces (parse source).body.toList, p.shape = .placeholder ∧ p.value = name := by
  have hnames : (parse source).outline.names =
      distinct ((tokenize (parse source).body).tokens.filterMap Token.placeholderName?) := rfl
  rw [hnames, mem_distinct, List.mem_filterMap, ← map_toPiece_tokenize]
  constructor
  · rintro ⟨token, htoken, hname⟩
    unfold Token.placeholderName? at hname
    split at hname
    · next hshape => exact ⟨_, List.mem_map_of_mem htoken, hshape, Option.some.inj hname⟩
    · cases hname
  · rintro ⟨p, hp, hshape, rfl⟩
    obtain ⟨token, htoken, rfl⟩ := List.mem_map.1 hp
    exact ⟨token, htoken, by simp [Token.placeholderName?, hshape]⟩

theorem nodup_names : (parse source).outline.names.Nodup := nodup_distinct _

/-- A loop has names for its item and its collection. -/
theorem isName_of_mem_loops (head : LoopHead) (h : head ∈ (parse source).outline.loops) :
    Directive.IsName head.item.toList ∧ Directive.IsName head.collection.toList := by
  obtain ⟨token, -, htoken⟩ := List.mem_filterMap.1 h
  obtain ⟨hdirective, -⟩ := token.eq_of_loopHead? head htoken
  exact token.isName_of_directive? _ _ hdirective

theorem nodup_topLevelNames : (parse source).topLevelNames.Nodup := (nodup_names source).filter _

variable (h : name ∈ (parse source).topLevelNames)
include h

theorem ne_empty_of_mem_topLevelNames : name ≠ "" := by
  obtain ⟨p, hp, hshape, rfl⟩ :=
    (mem_names_iff source name).1 ((mem_topLevelNames_iff _ name).1 h).1
  exact (value_of_mem_pieces _ p hp hshape).1

theorem trim_of_mem_topLevelNames : trim name.toList = name.toList := by
  obtain ⟨p, hp, hshape, rfl⟩ :=
    (mem_names_iff source name).1 ((mem_topLevelNames_iff _ name).1 h).1
  exact (value_of_mem_pieces _ p hp hshape).2

end

end Stencil.Template
