import Stencil.Json.Token

/-!
# Layout of documents

What a document keeps to beside the rules of JSON.

* Its characters are printable, or line breaks, or tabs.
* Tabs stand inside brackets only.
* Brackets stand in one another up to a depth of `depthLimit`.
* A name and its colon stand on one line, the colon at most `nameLimit` characters after the quote
  that opens the name.
* A string may run over several lines, parted by the line breaks that JSON allows in it. No line
  after the first begins like a mark between documents.

The lines of a string are joined. Spaces around line breaks are left out. A single "next line"
becomes a space; of several breaks, a "next line" that comes first is left out, and any other one
becomes a line end. Line and paragraph separators stay.

`layOut` checks all this in one pass and answers with a text in which each string is on one line.
-/

namespace Stencil.Json

/-- Why a text is not laid out as a document. -/
inductive LayoutError where
  | misplaced
  | tooDeep
deriving Repr, DecidableEq

/-- The greatest depth of brackets inside one another. The stack holds a thousand calls; each pair
of brackets takes two of them, and forty are left for what goes on around the reading. -/
def depthLimit : Nat := 480

/-- The greatest distance from the opening quote of a name to its colon. Documents are read by the
rules of YAML, in which what is to be a name may have 1024 characters before its colon. -/
def nameLimit : Nat := 1024

/-- The characters that a document may hold. -/
def isDocumentChar (c : Char) : Bool :=
  let n := c.toNat
  n = 9 || n = 10 || n = 13 || (32 ≤ n && n ≤ 126) || n = 0x85 || (0xA0 ≤ n && n ≤ 0xFFFD) ||
    0x10000 ≤ n

/-! ## Strings over several lines -/

/-- The character "next line". -/
def nextLine : Char := '\u0085'

/-- The line breaks that a string may hold. -/
def isLineBreak (c : Char) : Bool := c = nextLine || c = '\u2028' || c = '\u2029'

/-- Whether a line begins with a mark between documents: three hyphens or three dots, and a blank
after them. -/
def beginsWithMark : List Char → Bool
  | '-' :: '-' :: '-' :: c :: _ => c = ' ' || c = nextLine
  | '.' :: '.' :: '.' :: c :: _ => c = ' ' || c = nextLine
  | _ => false

/-- What stands between two characters of a string that are no blanks: spaces, or line breaks, the
last one first. -/
inductive Gap where
  | spaces (count : Nat)
  | lines (breaks : List Char)
deriving Repr, DecidableEq

namespace Gap

/-- There is nothing between two characters. -/
def none : Gap := spaces 0

/-- The gap with one more space. Spaces after a line break do not count. -/
def addSpace : Gap → Gap
  | spaces count => spaces (count + 1)
  | lines breaks => lines breaks

/-- The gap with one more line break. Spaces before it do not count. -/
def addBreak (c : Char) : Gap → Gap
  | spaces _ => lines [c]
  | lines breaks => lines (c :: breaks)

/-- How a line break that stays is written. -/
def breakText (c : Char) : List Char := if c = nextLine then ['\\', 'n'] else [c]

/-- What the gap becomes on one line. -/
def text : Gap → List Char
  | spaces count => List.replicate count ' '
  | lines breaks =>
    match breaks.reverse with
    | [] => []
    | first :: rest =>
      if first = nextLine then
        if rest.isEmpty then [' '] else rest.flatMap breakText
      else (first :: rest).flatMap breakText

end Gap

/-! ## The pass over a document -/

/-- Where a character of a document stands: outside of strings, or inside of one, so many
characters after its opening quote and after a gap. -/
inductive Position where
  | outside
  | inside (distance : Nat) (gap : Gap)
deriving Repr, DecidableEq

/-- Whether a colon after a string, if there is one, makes the string a name that keeps to the
rules. `distance` is how far the string's end is from its opening quote. -/
def nameFits (distance : Nat) (rest : List Char) : Bool :=
  let blanks := rest.takeWhile isBlank
  match rest.dropWhile isBlank with
  | ':' :: _ => !blanks.contains '\n' && distance + blanks.length ≤ nameLimit
  | _ => true

/-- Lays out the rest of a document, so many brackets deep. -/
def layOutFrom (depth : Nat) (position : Position) :
    List Char → Except LayoutError (List Char)
  | [] => .ok []
  | c :: rest =>
    match position with
    | .outside =>
      if c = '"' then (layOutFrom depth (.inside 1 .none) rest).map (c :: ·)
      else if c = '[' || c = '\x7b' then
        if depth = depthLimit then .error .tooDeep
        else (layOutFrom (depth + 1) .outside rest).map (c :: ·)
      else if c = ']' || c = '\x7d' then (layOutFrom (depth - 1) .outside rest).map (c :: ·)
      else if c = '\t' && depth = 0 then .error .misplaced
      else (layOutFrom depth .outside rest).map (c :: ·)
    | .inside distance gap =>
      if c = ' ' then layOutFrom depth (.inside (distance + 1) gap.addSpace) rest
      else if isLineBreak c then
        if beginsWithMark rest then .error .misplaced
        else layOutFrom depth (.inside (distance + 1) (gap.addBreak c)) rest
      else if c = '"' then
        if nameFits (distance + 1) rest then
          (layOutFrom depth .outside rest).map (gap.text ++ c :: ·)
        else .error .misplaced
      else if c = '\\' then
        match rest with
        | [] => .ok []
        | d :: rest =>
          (layOutFrom depth (.inside (distance + 2) .none) rest).map (gap.text ++ c :: d :: ·)
      else (layOutFrom depth (.inside (distance + 1) .none) rest).map (gap.text ++ c :: ·)

/-- The text of a document with each string on one line. -/
def layOut (document : List Char) : Except LayoutError (List Char) :=
  if document.all isDocumentChar then layOutFrom 0 .outside document else .error .misplaced

end Stencil.Json
