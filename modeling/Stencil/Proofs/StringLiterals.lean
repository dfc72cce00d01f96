import Stencil.Proofs.ConditionComposition
import Stencil.Proofs.LexemeForms

/-!
# Any text as a string literal

With a backslash before each backslash and before each quote of the kind it stands between, every
text is a string literal of the condition language. It is read back as it was, whatever it holds:
the character behind a backslash is taken with it, so no quote of the text ends the literal, and
neither a backslash nor a quote is an escape for another character. A text that spells a number is
no exception, since two texts are compared as texts.

## Key results

- `quoted_flatMap_escape`: a text is written by its characters with backslashes.
- `spelled_stringLiteral`: the literal of a text is read as that text.
- `judgeIn_equals_literal`: a text of the data equals the literal of a text only if it is that text.
-/

namespace Stencil

open Stencil.Text

namespace Condition

/-- A character in a string literal: a backslash stands before the quote and before a backslash. -/
def escape (quote c : Char) : List Char := if c = '\\' ∨ c = quote then ['\\', c] else [c]

/-- A text as a string literal. -/
def stringLiteral (quote : Char) (s : String) : String :=
  String.ofList (quote :: (s.toList.flatMap (escape quote) ++ [quote]))

/-- The characters of a text with their backslashes are written for that text. -/
theorem quoted_flatMap_escape (quote : Char) (hquote : quote = '\'' ∨ quote = '"')
    (s : List Char) : Quoted quote (s.flatMap (escape quote)) s := by
  induction s with
  | nil => exact .nil
  | cons c s ih =>
    rw [List.flatMap_cons, escape]
    split
    · next hc =>
      -- neither a backslash nor a quote stands for another character
      have hescaped : escaped c = c := by
        rcases hc with rfl | rfl
        · decide
        · rcases hquote with rfl | rfl <;> decide
      have hquoted := Quoted.escape c ih
      rwa [hescaped] at hquoted
    · next hc => exact .plain c ⟨fun h => hc (.inr h), fun h => hc (.inl h)⟩ ih

/-- The literal of a text is read as that text. -/
theorem spelled_stringLiteral (quote : Char) (hquote : quote = '\'' ∨ quote = '"') (s : String) :
    Spelled (stringLiteral quote s).toList [.string s] := by
  intro rest ts _ h
  have hquoted := quoted_flatMap_escape quote hquote s.toList
  obtain ⟨hread, hunescape⟩ := readQuoted?_of_quoted quote hquote _ _ rest hquoted
  have hstring : (quote = '"' || quote = '\'') = true := by simpa [or_comm] using hquote
  have hblank : isBlank quote = false := by
    rcases hquote with rfl | rfl <;> decide
  have hlexeme : lexeme? quote (s.toList.flatMap (escape quote) ++ quote :: rest) =
      some ⟨.string s, (s.toList.flatMap (escape quote)).length + 2, rest⟩ := by
    rw [lexeme?, if_pos hstring, readString?, hread, Option.map_some]
    dsimp only
    rw [hunescape, String.ofList_toList]
  rw [stringLiteral, String.toList_ofList, List.cons_append, List.append_assoc]
  exact spells_lexeme quote _ rest _ _ ts hblank hlexeme h

example : stringLiteral '\'' "it's \\n" = "'it\\'s \\\\n'" := by decide

/-- A path before the literal of a text is compared with that text. -/
theorem parse_equals_literal (quote : Char) (hquote : quote = '\'' ∨ quote = '"') (s : String) :
    parse ("x == " ++ stringLiteral quote s) =
      .ok (.compare .eq (.path "x") (.literal (.text s))) := by
  have hname : Spelled ['x'] [.path "x"] := by
    have h := spelled_name 'x' [] (by decide)
    rwa [readPath_of_isWord 'x' [] nofun] at h
  have hspelled := spelled_infix ['x'] (stringLiteral quote s).toList ['=', '='] [.path "x"]
    [.string s] (.relation .eq) (spells_relation .eq) hname (spelled_stringLiteral quote hquote s)
  have hspells := hspelled [] [] isBoundary_nil spells_nil
  have hpath : Derives .relational [.path "x"] (.path "x") := .unary (.primary (.path "x"))
  have hstring : Derives .relational [.string s] (.literal (.text s)) :=
    .unary (.primary (.string s))
  have hderives := Derives.conjunction (.equality (.equate .eq rfl hpath hstring))
  rw [List.append_nil, List.append_nil] at hspells
  refine (parse_eq_ok_iff_spells _ _).2 ⟨_, ?_, hderives, Nat.zero_le _⟩
  rw [String.toList_append]
  exact hspells

/-- A condition that compares a path with a literal says whether the values are equal. -/
theorem holds_equals (look : String → Value) (name : String) (l : Literal) :
    (Expr.compare .eq (.path name) (.literal l)).holds look =
      ((look name).equal l.value).mapError Failure.ofEqual := by
  show Except.map Value.isTruthy (do
    return Value.bool (← ((look name).equal l.value).mapError Failure.ofEqual)) = _
  cases (look name).equal l.value <;> rfl

/-- **Any text as a string literal.** Whatever two texts are, a text of the data equals the literal
of a text exactly if it is that text, and nothing is reported. The literal may stand between quotes
of either kind. -/
theorem judgeIn_equals_literal (s t : String) :
    let scope : Scope := .root (.object [("x", .text t)]) []
    judgeIn scope ("x == " ++ stringLiteral '"' s) = (.ok (decide (s = t)), []) ∧
      judgeIn scope ("x == " ++ stringLiteral '\'' s) = (.ok (decide (s = t)), []) := by
  intro scope
  have hlook : scope.lookup "x" = .text t := by rfl
  have hequal : (Value.text t).equal (.text s) = .ok (decide (s = t)) := by
    show Except.ok (t == s) = _
    rw [beq_eq_decide, decide_eq_decide.2 eq_comm]
  have hjudge : ∀ quote, quote = '\'' ∨ quote = '"' →
      judgeIn scope ("x == " ++ stringLiteral quote s) = (.ok (decide (s = t)), []) := by
    intro quote hquote
    rw [Renderer.judgeIn_eq_verdict,
      evaluate_of_parse _ _ _ (parse_equals_literal quote hquote s), holds_equals, hlook]
    show verdict _ (((Value.text t).equal (.text s)).mapError _) = _
    rw [hequal]
    rfl
  exact ⟨hjudge '"' (.inr rfl), hjudge '\'' (.inl rfl)⟩

end Condition

end Stencil
