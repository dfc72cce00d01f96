import Stencil.Proofs.BalancedNesting
import Stencil.Proofs.HereditaryValues
import Stencil.Proofs.RenderOutcome

/-!
# What rendered text is made of

The text of a rendering is put together from the texts of the template and from the texts of values
that its scopes can read. So a property of texts that the empty text has and that two texts have
together if each of them has it (`Joins`) holds of the whole if it holds of these parts. The other
way round, the texts of the parts are all found in the whole.

## Key results

- `text_join_of`: the texts of outcomes one after another.
- `infix_of_text_join`: each of them is part of the whole.
- `text_outcomes_of`: the text of a block tree.
-/

namespace Stencil

/-- Texts with the property have it put together, in any number. -/
structure Joins (P : String → Prop) : Prop where
  empty : P ""
  append : ∀ s t, P s → P t → P (s ++ t)

variable {P : String → Prop} {V : Value → Prop}

namespace Rendered

theorem text_append_of (hP : Joins P) (a b : Rendered) (ha : ∀ s, a.text = .ok s → P s)
    (hb : ∀ s, b.text = .ok s → P s) (whole : String) (h : (a.append b).text = .ok whole) :
    P whole := by
  obtain ⟨s, t, hs, ht, rfl⟩ := exists_of_text_append a b whole h
  exact hP.append s t (ha s hs) (hb t ht)

/-- The text of outcomes one after another has the property if all their texts have it. -/
theorem text_join_of (hP : Joins P) (rs : List Rendered)
    (hrs : ∀ r ∈ rs, ∀ s, r.text = .ok s → P s) (whole : String)
    (h : (join rs).text = .ok whole) : P whole := by
  induction rs generalizing whole with
  | nil =>
    cases h
    exact hP.empty
  | cons r rs ih =>
    refine text_append_of hP r (join rs) (hrs r List.mem_cons_self) ?_ whole h
    exact ih fun r' hr' => hrs r' (List.mem_cons_of_mem r hr')

/-- A text among those of outcomes is part of the whole. -/
theorem infix_of_text_join (rs : List Rendered) (r : Rendered) (hr : r ∈ rs) (whole : String)
    (h : (join rs).text = .ok whole) :
    ∃ text, r.text = .ok text ∧ text.toList <:+: whole.toList := by
  induction rs generalizing whole with
  | nil => cases hr
  | cons first rest ih =>
    obtain ⟨s, t, hs, ht, rfl⟩ := exists_of_text_append first _ whole h
    rw [String.toList_append]
    rcases List.mem_cons.1 hr with rfl | hr
    · exact ⟨s, hs, (List.prefix_append _ _).isInfix⟩
    · obtain ⟨text, htext, hin⟩ := ih hr t ht
      exact ⟨text, htext, hin.trans (List.suffix_append _ _).isInfix⟩

end Rendered

namespace Renderer

open Template

mutual

/-- The text of a node has the property if the texts in the node and in the values of the scope
have it. -/
theorem text_outcome_of (hP : Joins P) (hV : Value.Hereditary V)
    (htext : ∀ v, V v → ∀ s, v.text? = .ok s → P s) (node : Node)
    (hnode : ∀ content, .text content ∈ node.walk → P content) (scope : Scope)
    (hscope : scope.All V) (s : String) (h : (outcome scope node).text = .ok s) : P s := by
  cases node with
  | text content =>
    cases h
    refine hnode s ?_
    rw [Node.walk]
    exact List.mem_singleton_self _
  | placeholder name offset => exact htext _ (Scope.lookup_of_all hV scope hscope name) s h
  | loop item collection offset body =>
    rw [Node.walk] at hnode
    have hbody := text_outcomes_of hP hV htext body fun content hcontent =>
      hnode content (List.mem_cons_of_mem _ (List.mem_append_left _ hcontent))
    have hcollection := Scope.lookup_of_all hV scope hscope collection
    unfold outcome at h
    cases hlookup : scope.lookup collection with
    | list elements =>
      rw [hlookup] at hcollection h
      refine Rendered.text_join_of hP _ ?_ s h
      intro r hr
      -- each element of the list has the property, and so has what its turn can read
      obtain ⟨element, helement, rfl⟩ := List.mem_map.1 hr
      have hmember := hV.item elements hcollection element helement
      exact hbody _ (Scope.bind_of_all scope hscope item element hmember)
    | _ =>
      rw [hlookup] at h
      cases h
      exact hP.empty
  | conditional expression offset body =>
    rw [Node.walk] at hnode
    have hbody := text_outcomes_of hP hV htext body fun content hcontent =>
      hnode content (List.mem_cons_of_mem _ (List.mem_append_left _ hcontent))
    have hblank : ∀ t : String, Except.ok (ε := Overlong) "" = .ok t → P t := by
      intro t ht
      cases ht
      exact hP.empty
    unfold outcome at h
    cases hjudge : judgeIn scope expression with
    | mk result notes =>
      rw [hjudge] at h
      cases result with
      | error e => cases h
      | ok b =>
        cases b with
        | false => exact hblank s h
        | true => exact Rendered.text_append_of hP _ _ hblank (hbody scope hscope) s h

/-- The text of a block tree has the property if the texts in the tree and in the values of the
scope have it. -/
theorem text_outcomes_of (hP : Joins P) (hV : Value.Hereditary V)
    (htext : ∀ v, V v → ∀ s, v.text? = .ok s → P s) (nodes : List Node)
    (hnodes : ∀ content, .text content ∈ Node.walkAll nodes → P content) (scope : Scope)
    (hscope : scope.All V) (s : String) (h : (outcomes scope nodes).text = .ok s) : P s := by
  cases nodes with
  | nil =>
    cases h
    exact hP.empty
  | cons node rest =>
    rw [Node.walkAll] at hnodes
    exact Rendered.text_append_of hP _ _
      (text_outcome_of hP hV htext node
        (fun content hcontent => hnodes content (List.mem_append_left _ hcontent)) scope hscope)
      (text_outcomes_of hP hV htext rest
        (fun content hcontent => hnodes content (List.mem_append_right _ hcontent)) scope hscope)
      s h

end

end Renderer

end Stencil
