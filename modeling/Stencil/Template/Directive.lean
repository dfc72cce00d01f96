import Stencil.Text.Blank
import Stencil.Text.Search
import Stencil.Text.Word

/-!
# Directives

What stands in a directive: the head of a loop, the head of a conditional, or the end of one of
them. Anything else is no directive, and its marker is left as it is.
-/

namespace Stencil.Template

/-- The two kinds of block. -/
inductive BlockKind where
  | loop
  | conditional
deriving Repr, DecidableEq

namespace BlockKind

/-- The word that opens a block. -/
def opening : BlockKind → String
  | loop => "for"
  | conditional => "if"

/-- The word that closes a block. -/
def closing : BlockKind → String
  | loop => "endfor"
  | conditional => "endif"

end BlockKind

/-- The head of a block: `for item in items`, or `if` and a condition. -/
inductive Head where
  | loop (item collection : String)
  | conditional (expression : String)
deriving Repr, DecidableEq

/-- The kind of block that a head opens. -/
def Head.kind : Head → BlockKind
  | loop _ _ => .loop
  | conditional _ => .conditional

/-- A directive opens a block or closes one. -/
inductive Directive where
  | opening (head : Head)
  | closing (kind : BlockKind)
deriving Repr, DecidableEq

namespace Directive

/-- Drops the blanks a text begins with; there has to be one. -/
def afterBlanks? : List Char → Option (List Char)
  | [] => none
  | c :: s => if Text.isBlank c then some (Text.trimStart s) else none

/-- Reads word characters; there has to be one. -/
def readWord? (s : List Char) : Option (List Char × List Char) :=
  match s.takeWhile Text.isWord with
  | [] => none
  | word => some (word, s.dropWhile Text.isWord)

/-- Reads `for item in items`. Blanks may follow but not go before. -/
def readLoop? (s : List Char) : Option Head := do
  let s ← Text.afterPrefix? ['f', 'o', 'r'] s
  let s ← afterBlanks? s
  let (item, s) ← readWord? s
  let s ← afterBlanks? s
  let s ← Text.afterPrefix? ['i', 'n'] s
  let s ← afterBlanks? s
  let (collection, s) ← readWord? s
  if (Text.trimStart s).isEmpty then
    return .loop (String.ofList item) (String.ofList collection)
  else none

/-- The directive with the given content. The first word tells which it is; what follows the word
that ends a block is ignored. -/
def classify (content : String) : Option Directive :=
  let s := Text.trimStart content.toList
  let rest := Text.trim (Text.afterFirstWord s)
  match String.ofList (Text.firstWord s) with
  | "for" => (readLoop? content.toList).map opening
  | "if" => if rest.isEmpty then none else some (opening (.conditional (String.ofList rest)))
  | "endfor" => some (closing .loop)
  | "endif" => some (closing .conditional)
  | _ => none

end Directive

end Stencil.Template
