import Stencil.Proofs.DirectiveReading
import Stencil.Proofs.MarkerWording
import Stencil.Proofs.Relocation
import Stencil.Proofs.TokenAlone

/-!
# The two forms of a directive

A directive is written between `{%` and `%}`, or between `{{%` and `%}}`. The two forms are read by
different rules: the long one is cut out as a placeholder is, and loses a percent sign at its start,
and one at its end. What is left is the same content, whatever it is, so a template may be written
with either form.

## Key results

- `writes_shortForm`, `writes_longForm`: what a template that begins with either form is cut into.
- `pieces_around`, `ofTokens_around`: the pieces and the tree of a template with a directive in it.
- `directive_forms`: the tokens and the trees of a template with either form in it.
-/

namespace Stencil.Template

open Stencil.Text

/-- A directive in its short form. -/
def shortForm (content : String) : String := "\x7b% " ++ content ++ " %\x7d"

/-- A directive in its long form. -/
def longForm (content : String) : String := "\x7b\x7b% " ++ content ++ " %\x7d\x7d"

/-- The directive that both forms are read as. -/
def directivePiece (content raw : String) : Piece :=
  ⟨.directive, String.ofList (trim content.toList), raw⟩

/-! ## The content of the long form -/

/-- The content of the long form, from behind its first percent sign, loses its last one. -/
theorem controlContent_padded (x : List Char) :
    Piece.controlContent (' ' :: (x ++ [' ', '%'])) = trim x := by
  have htrim : trim (' ' :: (x ++ [' ', '%'])) = trimStart (' ' :: (x ++ [' '])) ++ ['%'] := by
    rw [show ' ' :: (x ++ [' ', '%']) = ' ' :: (x ++ [' ']) ++ ['%'] by simp, trim,
      trimStart_concat_of_not_isBlank _ _ (by decide),
      trimEnd_append_of_not_isBlank _ _ (by decide)]
  rw [Piece.controlContent, htrim, if_pos List.getLast?_concat, List.dropLast_concat]
  exact Directive.trim_padded x

/-- What stands in the braces of the long form is read as a directive. -/
theorem braced_control (x : List Char) :
    Piece.braced ('%' :: ' ' :: (x ++ [' ', '%'])) =
      ⟨.directive, String.ofList (trim x),
        String.ofList ('{' :: '{' :: '%' :: ' ' :: (x ++ [' ', '%', '}', '}']))⟩ := by
  -- there is nothing to trim between two percent signs
  have htrim : trim ('%' :: ' ' :: (x ++ [' ', '%'])) = '%' :: ' ' :: (x ++ [' ', '%']) := by
    apply trim_of_ends
    · simp [show isBlank '%' = false by decide]
    · rw [show '%' :: ' ' :: (x ++ [' ', '%']) = '%' :: ' ' :: (x ++ [' ']) ++ ['%'] by simp,
        List.getLast?_concat]
      simp [show isBlank '%' = false by decide]
  simp [Piece.braced, htrim, controlContent_padded]

/-! ## Reading either form -/

/-- A closing marker that is not in the content is not in the padded content either. -/
theorem not_infix_padded (a b : Char) (w s : List Char) (hw : a ∉ w) (hb : b ≠ ' ')
    (h : ¬ [a, b] <:+: s) : ¬ [a, b] <:+: w ++ (s ++ [' ']) := fun hin =>
  h (infix_of_infix_concat a b ' ' s hb (infix_of_infix_append_left a b w _ hw hin))

/-- The text is a way to write the directive with the content `x`: a template that begins with it
begins with that directive, whatever follows. -/
structure Writes (x form : String) : Prop where
  opens : opens form.toList = true
  pieces (rest : List Char) :
    pieces (form.toList ++ rest) = directivePiece x form :: pieces rest

theorem writes_shortForm (x : String) (h : ¬ ['%', '}'] <:+: x.toList) :
    Writes x (shortForm x) := by
  have htext : (shortForm x).toList = '{' :: '%' :: (' ' :: (x.toList ++ [' ']) ++ ['%', '}']) := by
    simp [shortForm, String.toList_append]
  constructor
  · rw [htext]
    rfl
  · intro rest
    have hinner : ¬ ['%', '}'] <:+: [' '] ++ (x.toList ++ [' ']) :=
      not_infix_padded '%' '}' [' '] x.toList (by simp) (by simp) h
    have hpiece : Piece.directive (' ' :: (x.toList ++ [' '])) =
        directivePiece x (shortForm x) := by
      rw [Piece.directive, directivePiece, Directive.trim_padded, ← htext, String.ofList_toList]
    have hpieces := pieces_directive _ rest hinner
    rw [List.singleton_append, hpiece] at hpieces
    rw [← hpieces, htext]
    simp

theorem writes_longForm (x : String) (h : ¬ ['}', '}'] <:+: x.toList) :
    Writes x (longForm x) := by
  have htext : (longForm x).toList =
      '{' :: '{' :: '%' :: ' ' :: (x.toList ++ [' ', '%', '}', '}']) := by
    simp [longForm, String.toList_append]
  constructor
  · rw [htext]
    rfl
  · intro rest
    have hinner : ¬ ['}', '}'] <:+: ['%', ' '] ++ (x.toList ++ [' ']) :=
      not_infix_padded '}' '}' ['%', ' '] x.toList (by simp) (by simp) h
    -- the content ends with a percent sign, so a brace at its end makes no closing marker
    have hcut := cut?_append_of_lacks ['}', '}'] _ rest '%' (by simp) hinner
    have hpiece : Piece.braced ('%' :: ' ' :: (x.toList ++ [' ', '%'])) =
        directivePiece x (longForm x) := by
      rw [braced_control, directivePiece, ← htext, String.ofList_toList]
    have hsplit : (longForm x).toList ++ rest =
        '{' :: '{' :: (['%', ' '] ++ (x.toList ++ [' ']) ++ '%' :: (['}', '}'] ++ rest)) := by
      simp [htext]
    apply pieces_of_readPiece?
    rw [hsplit]
    show some (readBraced _) = _
    rw [readBraced, hcut]
    simp [← hpiece]

/-! ## A directive between two templates -/

section

variable {x form : String} (hform : Writes x form) (a b : String) (hend : EndsApart a.toList)
  (hclosed : ∀ t ∈ (tokenize a).tokens, t.shape ≠ .loneOpening ∧ t.shape ≠ .openEnd)

include hform hend hclosed

/-- The pieces around a directive are those of the two templates it stands between. -/
theorem pieces_around :
    pieces (a ++ form ++ b).toList =
      pieces a.toList ++ directivePiece x form :: pieces b.toList := by
  have hopens : opens (form.toList ++ b.toList) = true :=
    opens_mono form.toList _ (List.prefix_append form.toList b.toList) hform.opens
  rw [String.toList_append, String.toList_append, List.append_assoc,
    pieces_append _ _ (allClosed_of_tokens a hclosed) hend hopens, hform.pieces]

/-- The tree of a template with a directive in it, without the places: the text of the directive
comes in as the source text of one token. -/
theorem ofTokens_around :
    (Tree.ofTokens (tokenize (a ++ form ++ b)).tokens).relocate (fun _ => 0) =
      Tree.ofTokens ((tokenize a).tokens.map (Token.relocate fun _ => 0) ++
        Token.reword ⟨directivePiece x "", ⟨0, 1, 1⟩⟩ form ::
          (tokenize b).tokens.map (Token.relocate fun _ => 0)) := by
  -- tokens without their places are pieces
  have htokens : ∀ text, (tokenize text).tokens.map (Token.relocate fun _ => 0) =
      (pieces text.toList).map fun p => ⟨p, ⟨0, 1, 1⟩⟩ := fun text => by
    rw [← map_toPiece_tokenize, List.map_map]
    rfl
  rw [← ofTokens_relocate, htokens, htokens, htokens, pieces_around hform a b hend hclosed,
    List.map_append, List.map_cons]
  rfl

end

/-- **The two forms of a directive are equivalent** in the body of a template, whatever the content,
which may be nothing or end with half a closing marker, and whatever stands behind. The tokens are
the same but for the source text of the directive, which holds the trimmed content. So the trees
have problems with the same wording, and the same nodes up to the offsets and to at most one text,
which is the directive as it is written. -/
theorem directive_forms (a x b : String) (hbraces : ¬ ['}', '}'] <:+: x.toList)
    (hpercent : ¬ ['%', '}'] <:+: x.toList) (hend : EndsApart a.toList)
    (hclosed : ∀ t ∈ (tokenize a).tokens, t.shape ≠ .loneOpening ∧ t.shape ≠ .openEnd) :
    let short := (tokenize (a ++ shortForm x ++ b)).tokens
    let long := (tokenize (a ++ longForm x ++ b)).tokens
    short.map (·.toPiece) = (tokenize a).tokens.map (·.toPiece) ++
        directivePiece x (shortForm x) :: (tokenize b).tokens.map (·.toPiece) ∧
      long.map (·.toPiece) = (tokenize a).tokens.map (·.toPiece) ++
        directivePiece x (longForm x) :: (tokenize b).tokens.map (·.toPiece) ∧
      (Tree.ofTokens short).problems.map Diagnostic.message =
        (Tree.ofTokens long).problems.map Diagnostic.message ∧
      SameBut (shortForm x) (longForm x)
        ((Tree.ofTokens short).nodes.map (Node.relocate fun _ => 0))
        ((Tree.ofTokens long).nodes.map (Node.relocate fun _ => 0)) := by
  intro short long
  have hshort := writes_shortForm x hpercent
  have hlong := writes_longForm x hbraces
  obtain ⟨hproblems, hnodes⟩ := ofTokens_reword
    ((tokenize a).tokens.map (Token.relocate fun _ => 0))
    ((tokenize b).tokens.map (Token.relocate fun _ => 0)) ⟨directivePiece x "", ⟨0, 1, 1⟩⟩
    (shortForm x) (longForm x)
  rw [← ofTokens_around hshort a b hend hclosed, ← ofTokens_around hlong a b hend hclosed]
    at hproblems hnodes
  refine ⟨?_, ?_, ?_, hnodes⟩
  · rw [map_toPiece_tokenize, map_toPiece_tokenize, map_toPiece_tokenize,
      pieces_around hshort a b hend hclosed]
  · rw [map_toPiece_tokenize, map_toPiece_tokenize, map_toPiece_tokenize,
      pieces_around hlong a b hend hclosed]
  · -- the wording of a problem does not tell its place
    have hmessages := congrArg (List.map Diagnostic.message) hproblems
    unfold Tree.relocate at hmessages
    rwa [List.map_map, List.map_map] at hmessages

/-- A loop with the head of a conditional in it that holds an opening marker, ends with a brace and
a percent sign, and has no end: in either form it is reported, and becomes a text of the body of the
loop. A marker that is not closed stands behind the loop. -/
theorem directive_forms_crossed :
    let a := "\x7b% for i in l %\x7d"
    let x := "if \x7b\x7b \x7d%"
    let b := "z\x7b% endfor %\x7d\x7b% z"
    ¬ ['}', '}'] <:+: x.toList ∧ ¬ ['%', '}'] <:+: x.toList ∧ EndsApart a.toList ∧
      (∀ t ∈ (tokenize a).tokens, t.shape ≠ .loneOpening ∧ t.shape ≠ .openEnd) ∧
      Tree.ofTokens (tokenize (a ++ shortForm x ++ b)).tokens =
        ⟨[.loop "i" "l" 0 [.text (shortForm x), .text "z"], .text "\x7b%", .text " z"],
          [⟨.crossed .conditional .loop, ⟨16, 1, 17⟩⟩]⟩ ∧
      (Tree.ofTokens (tokenize (a ++ longForm x ++ b)).tokens).problems.map Diagnostic.message =
        ["'if' block crosses the end of 'for' block"] ∧
      SameBut (shortForm x) (longForm x)
        ((Tree.ofTokens (tokenize (a ++ shortForm x ++ b)).tokens).nodes.map
          (Node.relocate fun _ => 0))
        ((Tree.ofTokens (tokenize (a ++ longForm x ++ b)).tokens).nodes.map
          (Node.relocate fun _ => 0)) := by
  intro a x b
  have hatokens : (tokenize a).tokens = [⟨⟨.directive, "for i in l", a⟩, ⟨0, 1, 1⟩⟩] := by
    decide +kernel
  have htokens : (tokenize (a ++ shortForm x ++ b)).tokens =
      [⟨⟨.directive, "for i in l", a⟩, ⟨0, 1, 1⟩⟩,
        ⟨⟨.directive, "if \x7b\x7b \x7d%", shortForm x⟩, ⟨16, 1, 17⟩⟩,
        ⟨⟨.run, "z", "z"⟩, ⟨30, 1, 31⟩⟩,
        ⟨⟨.directive, "endfor", "\x7b% endfor %\x7d"⟩, ⟨31, 1, 32⟩⟩,
        ⟨⟨.loneOpening, "\x7b%", "\x7b%"⟩, ⟨43, 1, 44⟩⟩, ⟨⟨.run, " z", " z"⟩, ⟨45, 1, 46⟩⟩] := by
    decide +kernel
  have hfor : Directive.classify "for i in l" = some (.opening (.loop "i" "l")) := by decide
  have hif : Directive.classify "if \x7b\x7b \x7d%" =
      some (.opening (.conditional "\x7b\x7b \x7d%")) := by decide
  have hendfor : Directive.classify "endfor" = some (.closing .loop) := by decide
  have hshort : Tree.ofTokens (tokenize (a ++ shortForm x ++ b)).tokens =
      ⟨[.loop "i" "l" 0 [.text (shortForm x), .text "z"], .text "\x7b%", .text " z"],
        [⟨.crossed .conditional .loop, ⟨16, 1, 17⟩⟩]⟩ := by
    rw [htokens, Tree.ofTokens]
    simp only [List.foldl_cons, List.foldl_nil, Builder.read, hfor, hif, hendfor]
    rfl
  have hbraces : ¬ ['}', '}'] <:+: x.toList := (cut?_eq_none_iff _ _).1 (by decide)
  have hpercent : ¬ ['%', '}'] <:+: x.toList := (cut?_eq_none_iff _ _).1 (by decide)
  have hend : EndsApart a.toList := by simp [EndsApart, a]
  have hclosed : ∀ t ∈ (tokenize a).tokens, t.shape ≠ .loneOpening ∧ t.shape ≠ .openEnd := by
    rw [hatokens]
    decide
  obtain ⟨-, -, hmessages, hnodes⟩ := directive_forms a x b hbraces hpercent hend hclosed
  refine ⟨hbraces, hpercent, hend, hclosed, hshort, ?_, hnodes⟩
  rw [← hmessages, hshort]
  decide

end Stencil.Template
