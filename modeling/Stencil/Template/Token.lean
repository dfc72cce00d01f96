import Stencil.Note
import Stencil.Text.Blank
import Stencil.Text.Line
import Stencil.Text.Search

/-!
# Tokens of a template

A template is cut into pieces of text, placeholders `{{ … }}` and directives `{% … %}`; a directive
may also be written `{{% … %}}`. Nothing is refused: a marker that is not closed, and a placeholder
with nothing in it, are text. Each piece keeps its source text, and the pieces put together are the
template.

* `length_of_readPiece?`: what follows a piece is shorter than the template.
-/

namespace Stencil.Template

/-- How a stretch of a template was read. The first four shapes are text. -/
inductive Shape where
  /-- Text up to the next opening marker. -/
  | run
  /-- An opening marker of a directive that nothing closes. -/
  | loneOpening
  /-- An opening marker of a placeholder that nothing closes, and all that follows it. -/
  | openEnd
  /-- A placeholder with nothing but blanks in it. -/
  | blankPlaceholder
  | placeholder
  | directive
deriving Repr, DecidableEq

namespace Shape

/-- The shapes that stand for themselves. -/
def isText : Shape → Bool
  | placeholder | directive => false
  | _ => true

end Shape

/-- A stretch of a template: its source text, and what it holds. Text holds itself; a placeholder
and a directive hold what stands between their markers, trimmed. -/
structure Piece where
  shape : Shape
  value : String
  raw : String
deriving Repr, DecidableEq

namespace Piece

/-- A piece that stands for itself. -/
def text (shape : Shape) (raw : List Char) : Piece :=
  ⟨shape, String.ofList raw, String.ofList raw⟩

/-- The content of a directive written `{{% … %}}`, given what follows the first percent sign. -/
def controlContent (s : List Char) : List Char :=
  let content := Text.trim s
  if content.getLast? = some '%' then Text.trimEnd content.dropLast else content

/-- The piece `{{ inner }}`. -/
def braced (inner : List Char) : Piece :=
  let raw := '{' :: '{' :: (inner ++ ['}', '}'])
  match Text.trim inner with
  | [] => text .blankPlaceholder raw
  | '%' :: control => ⟨.directive, String.ofList (controlContent control), String.ofList raw⟩
  | name => ⟨.placeholder, String.ofList name, String.ofList raw⟩

/-- The piece `{% inner %}`. -/
def directive (inner : List Char) : Piece :=
  ⟨.directive, String.ofList (Text.trim inner),
    String.ofList ('{' :: '%' :: (inner ++ ['%', '}']))⟩

end Piece

/-- Whether a text begins with an opening marker. -/
def opens : List Char → Bool
  | '{' :: '{' :: _ => true
  | '{' :: '%' :: _ => true
  | _ => false

/-- The characters before the leftmost opening marker, and the text from there on. -/
def splitOpening : List Char → List Char × List Char
  | [] => ([], [])
  | c :: s =>
    if opens (c :: s) then ([], c :: s)
    else
      let (before, rest) := splitOpening s
      (c :: before, rest)

/-- Reads a piece that begins with `{{`, given what follows that marker. -/
def readBraced (s : List Char) : Piece × List Char :=
  match Text.cut? ['}', '}'] s with
  | some (inner, rest) => (.braced inner, rest)
  | none => (.text .openEnd ('{' :: '{' :: s), [])

/-- Reads a piece that begins with `{%`, given what follows that marker. -/
def readDirective (s : List Char) : Piece × List Char :=
  match Text.cut? ['%', '}'] s with
  | some (inner, rest) => (.directive inner, rest)
  | none => (.text .loneOpening ['{', '%'], s)

/-- Reads the piece that a template begins with; an empty template has none. -/
def readPiece? : List Char → Option (Piece × List Char)
  | [] => none
  | '{' :: '{' :: s => some (readBraced s)
  | '{' :: '%' :: s => some (readDirective s)
  | c :: s =>
    let (before, rest) := splitOpening s
    some (.text .run (c :: before), rest)

theorem length_splitOpening_le (s : List Char) : (splitOpening s).2.length ≤ s.length := by
  induction s with
  | nil => simp [splitOpening]
  | cons c s ih =>
    unfold splitOpening
    split
    · simp
    · simp only [List.length_cons]
      omega

theorem length_of_readPiece? {s rest : List Char} {p : Piece}
    (h : readPiece? s = some (p, rest)) : rest.length < s.length := by
  unfold readPiece? at h
  split at h
  · simp at h
  · next s =>
    simp only [readBraced, Option.some.injEq] at h
    split at h
    · next hc =>
      cases h
      have := Text.length_of_cut? hc
      simp only [List.length_cons]
      omega
    · cases h
      simp
  · next s =>
    simp only [readDirective, Option.some.injEq] at h
    split at h
    · next hc =>
      cases h
      have := Text.length_of_cut? hc
      simp only [List.length_cons]
      omega
    · cases h
      simp only [List.length_cons]
      omega
  · next s _ _ =>
    cases h
    have := length_splitOpening_le s
    simp only [List.length_cons]
    omega

/-- The pieces of a template. -/
def pieces (s : List Char) : List Piece :=
  match h : readPiece? s with
  | none => []
  | some (p, rest) =>
    have := length_of_readPiece? h
    p :: pieces rest
termination_by s.length

/-- A piece and the place it starts at. -/
structure Token extends Piece where
  place : Place
deriving Repr, DecidableEq

namespace Token

/-- The offset of the first character. -/
def offset (t : Token) : Nat := t.place.offset

/-- The offset after the last character. -/
def stop (t : Token) : Nat := t.place.offset + t.raw.length

/-- What is reported of text that looks like a marker. -/
def note? (t : Token) : Option Note :=
  match t.shape with
  | .loneOpening =>
    some (.debug ("Unterminated '\x7b%' at " ++ toString t.offset ++ " kept as text"))
  | .openEnd =>
    some (.debug ("Unterminated '\x7b\x7b' at " ++ toString t.offset ++ ", treating tail as text"))
  | .blankPlaceholder =>
    some (.debug ("Empty placeholder at " ++ t.place.toText ++ " kept as text"))
  | _ => none

end Token

/-- Gives each piece its place, the first one starting at `p`. -/
def locate (p : Place) : List Piece → List Token
  | [] => []
  | piece :: rest => ⟨piece, p⟩ :: locate (p.advance piece.raw.toList) rest

/-- The place after the last piece, the first one starting at `p`. -/
def finish (p : Place) (ps : List Piece) : Place :=
  ps.foldl (fun p piece => p.advance piece.raw.toList) p

/-- The tokens of a template, and the place where it ends. -/
structure Tokens where
  tokens : List Token
  stop : Place
deriving Repr, DecidableEq

/-- Cuts a template into tokens. -/
def tokenize (template : String) : Tokens :=
  let ps := pieces template.toList
  ⟨locate .start ps, finish .start ps⟩

end Stencil.Template
