import Stencil.Proofs.LexemeSeam
import Stencil.Text.Quoted

/-!
# Quoted texts end at their quotes

What a quoted text holds between its quotes has neither that quote nor a backslash in it, but for
those behind a backslash. So whoever knows the quote can tell where the text ends, whatever the
characters of the text are and whatever follows it.

## Key results

- `readQuoted?_quoteChars`: a quoted text is read up to its closing quote.
- `quote_append_cancel`: what follows a quoted text can be told from the whole.
-/

namespace Stencil

open Stencil.Text

/-! ## Characters -/

/-- The character stands for itself between the quotes. -/
def IsPlain (quote c : Char) : Prop := c ≠ quote ∧ c ≠ '\\'

theorem digitChar_isPlain (quote : Char) (hquote : quote = '\'' ∨ quote = '"') (n : Nat)
    (hn : n < 16) : IsPlain quote n.digitChar := by
  have hdigits : ∀ d : Fin 16, d.val.digitChar ∉ ['\'', '"', '\\'] := by decide
  have hdigit := hdigits ⟨n, hn⟩
  simp only [List.mem_cons, List.not_mem_nil, or_false, not_or] at hdigit
  rcases hquote with rfl | rfl
  · exact ⟨hdigit.1, hdigit.2.2⟩
  · exact hdigit.2

theorem toDigits_isPlain (quote : Char) (hquote : quote = '\'' ∨ quote = '"') (n : Nat) :
    ∀ c ∈ Nat.toDigits 16 n, IsPlain quote c := by
  induction n using Nat.strong_induction_on with
  | h n ih =>
    intro c hc
    rw [Nat.toDigits_eq_if (by decide)] at hc
    split at hc
    · next hn =>
      rw [List.mem_singleton.1 hc]
      exact digitChar_isPlain quote hquote n hn
    · rcases List.mem_append.1 hc with hc | hc
      · exact ih (n / 16) (by omega) c hc
      · rw [List.mem_singleton.1 hc]
        exact digitChar_isPlain quote hquote _ (Nat.mod_lt n (by decide))

theorem hex_isPlain (quote : Char) (hquote : quote = '\'' ∨ quote = '"') (width n : Nat) :
    ∀ c ∈ hex width n, IsPlain quote c := by
  intro c hc
  rcases List.mem_append.1 hc with hc | hc
  · rw [List.eq_of_mem_replicate hc]
    exact digitChar_isPlain quote hquote 0 (by decide)
  · exact toDigits_isPlain quote hquote n c hc

/-- A character is written as itself, or as a backslash, a character and plain characters. -/
theorem quoteChar_shape (quote c : Char) (hquote : quote = '\'' ∨ quote = '"') :
    (quoteChar quote c = [c] ∧ IsPlain quote c) ∨
      ∃ d s, quoteChar quote c = '\\' :: d :: s ∧ ∀ x ∈ s, IsPlain quote x := by
  unfold quoteChar
  split
  · exact .inr ⟨c, [], rfl, nofun⟩
  · next hself =>
    rw [Bool.or_eq_true, decide_eq_true_eq, decide_eq_true_eq, not_or] at hself
    split
    · exact .inr ⟨'n', [], rfl, nofun⟩
    split
    · exact .inr ⟨'r', [], rfl, nofun⟩
    split
    · exact .inr ⟨'t', [], rfl, nofun⟩
    split
    · exact .inl ⟨rfl, hself⟩
    -- the escapes with digits
    split
    · exact .inr ⟨'x', _, rfl, hex_isPlain quote hquote 2 _⟩
    split
    · exact .inr ⟨'u', _, rfl, hex_isPlain quote hquote 4 _⟩
    · exact .inr ⟨'U', _, rfl, hex_isPlain quote hquote 8 _⟩

theorem quoteFor_cases (s : List Char) : quoteFor s = '\'' ∨ quoteFor s = '"' := by
  unfold quoteFor
  split
  · exact .inr rfl
  · exact .inl rfl

/-! ## Texts -/

namespace Condition

/-- Plain characters are read one by one. -/
theorem readQuoted?_plain (quote : Char) (s rest : List Char) (hs : ∀ c ∈ s, IsPlain quote c) :
    readQuoted? quote (s ++ rest) =
      (readQuoted? quote rest).map fun (body, r) => (s ++ body, r) := by
  induction s with
  | nil => exact Option.map_id'.symm
  | cons c s ih =>
    obtain ⟨hquote, hback⟩ := hs c List.mem_cons_self
    rw [List.cons_append, readQuoted?_cons, if_neg hquote, if_neg hback,
      ih fun d hd => hs d (List.mem_cons_of_mem c hd), Option.map_map]
    rfl

/-- A character that is written between quotes is read as a whole. -/
theorem readQuoted?_quoteChar (quote c : Char) (hquote : quote = '\'' ∨ quote = '"')
    (rest : List Char) :
    readQuoted? quote (quoteChar quote c ++ rest) =
      (readQuoted? quote rest).map fun (body, r) => (quoteChar quote c ++ body, r) := by
  rcases quoteChar_shape quote c hquote with ⟨hone, hplain⟩ | ⟨d, s, hlist, hs⟩
  · rw [hone]
    exact readQuoted?_plain quote [c] rest fun x hx => List.mem_singleton.1 hx ▸ hplain
  · have hback : ¬ '\\' = quote := by
      rcases hquote with rfl | rfl <;> decide
    rw [hlist, List.cons_append, List.cons_append, readQuoted?_cons, if_neg hback, if_pos rfl]
    dsimp only
    rw [readQuoted?_plain quote s rest hs, Option.map_map]
    rfl

/-- A text that is written between quotes is read up to the closing one. -/
theorem readQuoted?_quoteChars (quote : Char) (hquote : quote = '\'' ∨ quote = '"')
    (s rest : List Char) :
    readQuoted? quote (s.flatMap (quoteChar quote) ++ quote :: rest) =
      some (s.flatMap (quoteChar quote), rest) := by
  induction s with
  | nil => rw [List.flatMap_nil, List.nil_append, readQuoted?_cons, if_pos rfl]
  | cons c s ih =>
    rw [List.flatMap_cons, List.append_assoc, readQuoted?_quoteChar quote c hquote, ih]
    rfl

end Condition

/-- What follows a quoted text can be told from the whole. -/
theorem quote_append_cancel (s t u v : String) (h : quote s ++ u = quote t ++ v) : u = v := by
  have hsplit : ∀ s u : String, (quote s ++ u).toList = quoteFor s.toList ::
      (s.toList.flatMap (quoteChar (quoteFor s.toList)) ++ quoteFor s.toList :: u.toList) := by
    intro s u
    simp [quote]
  have hlist := congrArg String.toList h
  rw [hsplit, hsplit] at hlist
  obtain ⟨hquote, hrest⟩ := List.cons.inj hlist
  -- both texts are between the same quotes, and are read up to the closing one
  have hread := Condition.readQuoted?_quoteChars (quoteFor s.toList) (quoteFor_cases _) s.toList
    u.toList
  rw [hrest, hquote, Condition.readQuoted?_quoteChars _ (quoteFor_cases _)] at hread
  have hpair := Option.some.inj hread
  exact String.toList_inj.1 (congrArg Prod.snd hpair).symm

end Stencil
